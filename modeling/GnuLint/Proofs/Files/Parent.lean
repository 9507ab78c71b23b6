import GnuLint.Fix.File
import GnuLint.Proofs.Files.Walk

/-!
# The directory that a path lies in

The path without its last part is spelled with the first stretches of the path
(`GnuLint.Path.Splits.split_spell`), so wherever a path leads to something, the path without its
last part leads to a directory (`GnuLint.Disk.isDirectory_of_parent?`). Creating the
directory that a file lies in therefore changes nothing
(`GnuLint.Disk.createParent_of_find`).
-/

namespace GnuLint

namespace Path

variable {s : Text} {start : Option PathPart} {parts : List Text} {p parent : Path}

/-! ### Cutting at slashes and putting together again -/

theorem splitSlashes_eq_splitOn (s : Text) : splitSlashes s = s.splitOn '/' := by
  induction s with
  | nil => rfl
  | cons c s ih =>
    rw [List.splitOn_cons_eq_if_modifyHead]
    by_cases hc : c = '/'
    · subst c
      rw [splitSlashes, ih]
      rfl
    · rw [splitSlashes, ih, if_neg (by simpa using hc)]
      · obtain ⟨part, parts, hs⟩ := List.exists_cons_of_ne_nil (List.splitOn_ne_nil '/' s)
        rw [hs]
        rfl
      · exact hc

theorem slash_notMem_of_mem_splitSlashes {part : Text} (h : part ∈ splitSlashes s) :
    '/' ∉ part := by
  induction s generalizing part with
  | nil =>
    obtain rfl : part = [] := by simpa [splitSlashes] using h
    simp
  | cons c s ih =>
    rw [splitSlashes_eq_splitOn, List.splitOn_cons_eq_if_modifyHead,
      ← splitSlashes_eq_splitOn] at h
    split at h
    · rcases List.mem_cons.mp h with rfl | h
      · simp
      · exact ih h
    · rename_i hc
      cases hs : splitSlashes s with
      | nil => simp [hs] at h
      | cons head tail =>
        rw [hs] at h ih
        rcases List.mem_cons.mp h with rfl | h
        · have hhead : '/' ∉ head := ih List.mem_cons_self
          have hc' : '/' ≠ c := fun he => hc (by rw [he, beq_self_eq_true])
          exact fun hm => (List.mem_cons.mp hm).elim hc' hhead
        · exact ih (List.mem_cons_of_mem head h)

theorem splitSlashes_intercalate (hne : parts ≠ []) (hslash : ∀ part ∈ parts, '/' ∉ part) :
    splitSlashes (['/'].intercalate parts) = parts := by
  rw [splitSlashes_eq_splitOn, List.splitOn_intercalate '/' hslash hne]

/-! ### The beginning of a path -/

/-- The three ways in which a path begins, with the stretches after the beginning. -/
inductive Splits : Text → Option PathPart → List Text → Prop
  /-- At the root. -/
  | root (s : Text) : Splits ('/' :: s) (some .root) (splitSlashes s)
  /-- With a dot that is all of the path. -/
  | dot : Splits ['.'] (some .here) []
  /-- With a dot of its own. -/
  | here (s : Text) : Splits ('.' :: '/' :: s) (some .here) (splitSlashes s)
  /-- With a first stretch that is no dot, or with nothing. -/
  | bare (s : Text) : s.head? ≠ some '/' → (splitSlashes s).head? ≠ some ['.'] →
      Splits s none (splitSlashes s)

theorem splits_split (p : Path) : Splits p.spelling p.split.1 p.split.2 := by
  obtain ⟨s⟩ := p
  unfold split
  split
  · rename_i r hs
    obtain rfl : s = '/' :: r := hs
    exact .root r
  · rename_i hs
    obtain rfl : s = ['.'] := hs
    exact .dot
  · rename_i r hs
    obtain rfl : s = '.' :: '/' :: r := hs
    exact .here r
  · rename_i hroot hdot hhere
    refine .bare s (fun hc => ?_) (fun hc => ?_)
    · obtain ⟨r, rfl⟩ : ∃ r, s = '/' :: r := ⟨s.tail, (List.cons_head?_tail hc).symm⟩
      exact hroot r rfl
    · -- a first stretch that is a dot is the whole path or is followed by a slash
      have hs : ['/'].intercalate (splitSlashes s) = s := by
        rw [splitSlashes_eq_splitOn, List.intercalate_splitOn]
      cases hparts : splitSlashes s with
      | nil => simp [hparts] at hc
      | cons first rest =>
        rw [hparts] at hs hc
        obtain rfl : first = ['.'] := by simpa using hc
        cases rest with
        | nil => exact hdot (by rw [← hs]; rfl)
        | cons second rest =>
          exact hhere (['/'].intercalate (second :: rest)) (by rw [← hs]; rfl)

theorem Splits.slash_notMem (h : Splits s start parts) {part : Text} (hp : part ∈ parts) :
    '/' ∉ part := by
  cases h with
  | dot => simp at hp
  | root | here | bare => exact slash_notMem_of_mem_splitSlashes hp

/-- A path is spelled by its beginning and its stretches. -/
theorem Splits.spell_eq (h : Splits s start parts) : spell start parts = s := by
  have hjoin (t : Text) : ['/'].intercalate (splitSlashes t) = t := by
    rw [splitSlashes_eq_splitOn, List.intercalate_splitOn]
  cases h with
  | root t => rw [spell, hjoin]
  | dot => rfl
  | here t =>
    rw [spell, hjoin]
    rw [splitSlashes_eq_splitOn]
    exact List.splitOn_ne_nil '/' t
  | bare => rw [spell, hjoin] <;> simp

theorem Splits.split_eq (h : Splits p.spelling start parts) : p.split = (start, parts) := by
  obtain ⟨s⟩ := p
  replace h : Splits s start parts := h
  cases h with
  | root | dot | here => rfl
  | bare s hroot hdot =>
    unfold split
    split
    · rename_i r hs
      exact absurd (congrArg List.head? hs) hroot
    · rename_i hs
      obtain rfl : s = ['.'] := hs
      exact absurd rfl hdot
    · rename_i r hs
      obtain rfl : s = '.' :: '/' :: r := hs
      exact absurd rfl hdot
    · rfl

/-- A path that begins with neither the root nor a dot has a first stretch, unless it is
empty. -/
theorem head?_intercalate_ne_slash {first : Text} {rest : List Text}
    (hfirst : first ≠ [] ∨ rest = []) (hslash : '/' ∉ first) :
    (['/'].intercalate (first :: rest)).head? ≠ some '/' := by
  cases first with
  | nil =>
    rw [hfirst.resolve_left (by simp)]
    simp
  | cons c first =>
    rw [List.intercalate_cons_cons_left]
    simpa [eq_comm] using fun he : c = '/' => hslash (by simp [he])

/-- **The first stretches of a path spell a path that begins in the same way.** -/
theorem Splits.spell_take (h : Splits s start parts) {pre rest : List Text}
    (hparts : parts = pre ++ rest) (hpre : pre ≠ []) : Splits (spell start pre) start pre := by
  have hslash : ∀ part ∈ pre, '/' ∉ part := fun part hp =>
    h.slash_notMem (by rw [hparts]; exact List.mem_append_left rest hp)
  have hjoin : splitSlashes (['/'].intercalate pre) = pre := splitSlashes_intercalate hpre hslash
  obtain ⟨first, more, rfl⟩ := List.exists_cons_of_ne_nil hpre
  cases h with
  | root t =>
    have := Splits.root (['/'].intercalate (first :: more))
    rwa [hjoin] at this
  | dot => simp at hparts
  | here t =>
    have := Splits.here (['/'].intercalate (first :: more))
    rwa [hjoin] at this
  | bare t hroot hdot =>
    have hspell := (Splits.bare s hroot hdot).spell_eq
    rw [hparts] at hspell hdot
    have hhead : (['/'].intercalate (first :: more)).head? ≠ some '/' := by
      refine head?_intercalate_ne_slash ?_ (hslash first List.mem_cons_self)
      by_contra hc
      obtain ⟨rfl, hmore⟩ := not_or.mp hc |>.imp_left not_not.mp
      obtain ⟨second, more, rfl⟩ := List.exists_cons_of_ne_nil hmore
      rw [← hspell] at hroot
      exact hroot rfl
    have := Splits.bare (['/'].intercalate (first :: more)) hhead (by rw [hjoin]; exact hdot)
    rwa [hjoin] at this

/-- The stretches of the path that the first stretches of a path spell are the same; the
root alone counts as one empty stretch. -/
theorem Splits.split_spell (h : Splits s start parts) {pre rest : List Text}
    (hparts : parts = pre ++ rest) (hp : p.spelling = spell start pre) (hne : p.spelling ≠ []) :
    p.split.2 = pre ∨ p.split.2 = pre ++ [[]] := by
  by_cases hpre : pre = []
  · subst hpre
    obtain ⟨t⟩ := p
    obtain rfl : t = spell start [] := hp
    cases h with
    | root => exact Or.inr rfl
    | dot | here => exact Or.inl rfl
    | bare => exact absurd rfl hne
  · have hsplit := h.spell_take hparts hpre
    rw [← hp] at hsplit
    exact Or.inl (congrArg Prod.snd hsplit.split_eq)

theorem intercalate_prefix (sep : Text) (pre rest : List Text) :
    sep.intercalate pre <+: sep.intercalate (pre ++ rest) := by
  induction pre with
  | nil => exact List.nil_prefix
  | cons a pre ih =>
    cases pre with
    | nil =>
      cases rest with
      | nil => exact List.prefix_rfl
      | cons b rest =>
        rw [List.singleton_append, List.intercalate_singleton, List.intercalate_cons_cons,
          List.append_assoc]
        exact List.prefix_append a _
    | cons b pre =>
      rw [List.cons_append, List.cons_append, List.intercalate_cons_cons,
        List.intercalate_cons_cons]
      exact (List.prefix_append_right_inj _).mpr ih

theorem spell_prefix (start : Option PathPart) (pre rest : List Text) :
    spell start pre <+: spell start (pre ++ rest) := by
  have hjoin := intercalate_prefix ['/'] pre rest
  rcases start with _ | (_ | _ | _ | _)
  · exact hjoin
  · exact (List.prefix_cons_inj '/').mpr hjoin
  · cases pre with
    | nil => cases rest <;> simp [spell]
    | cons a pre => exact (List.prefix_append_right_inj ['.', '/']).mpr hjoin
  · exact hjoin
  · exact hjoin

/-! ### The path without its last part -/

theorem eq_append_trimIdle (parts : List Text) :
    ∃ idle, parts = trimIdle parts ++ idle ∧ ∀ a ∈ idle, isIdle a = true :=
  ⟨parts.rtakeWhile isIdle, (List.rdropWhile_append_rtakeWhile ..).symm,
    fun _ => List.mem_rtakeWhile_imp⟩

/-- **A path without its last part** is spelled with the first stretches of the path, and
more stretches come after them. -/
theorem spelling_parent? (h : p.parent? = some parent) (hne : parent.spelling ≠ []) :
    ∃ pre a rest, p.split.2 = pre ++ a :: rest ∧ parent.spelling = spell p.split.1 pre := by
  unfold parent? at h
  rcases hp : p.split with ⟨start, parts⟩
  simp only [hp] at h ⊢
  obtain ⟨idle, hidle, -⟩ := eq_append_trimIdle parts
  rcases List.eq_nil_or_concat' (trimIdle parts) with hnil | ⟨init, last, hlast⟩
  · rw [hnil] at h
    obtain ⟨-, hroot⟩ := Option.ite_none_right_eq_some.mp h
    obtain rfl : (⟨[]⟩ : Path) = parent := Option.some.inj hroot
    exact absurd rfl hne
  obtain ⟨idle', hidle', -⟩ := eq_append_trimIdle init
  have hparts : parts = trimIdle init ++ (idle' ++ last :: idle) := by
    calc parts = init ++ [last] ++ idle := by rw [← hlast]; exact hidle
      _ = trimIdle init ++ idle' ++ [last] ++ idle := by rw [← hidle']
      _ = trimIdle init ++ (idle' ++ last :: idle) := by simp
  obtain ⟨a, rest, hrest⟩ : ∃ a rest, idle' ++ last :: idle = a :: rest :=
    List.exists_cons_of_ne_nil (by simp)
  refine ⟨trimIdle init, a, rest, by rw [hparts, hrest], ?_⟩
  obtain ⟨b, more, hb⟩ : ∃ b more, init ++ [last] = b :: more :=
    List.exists_cons_of_ne_nil (by simp)
  rw [hlast, hb] at h
  rw [← Option.some.inj h, ← hb, List.dropLast_concat]

end Path

namespace Disk

variable {d : Disk} {p parent : Path}

/-- Nothing is wrong with the beginning of a path if nothing is wrong with the path. -/
theorem spellingError?_of_prefix {q : Path} (h : spellingError? p = none)
    (hpre : q.spelling <+: p.spelling) (hne : q.spelling ≠ []) : spellingError? q = none := by
  obtain ⟨rest, hrest⟩ := hpre
  have hlength : Text.byteLength p.spelling =
      Text.byteLength q.spelling + Text.byteLength rest := by
    rw [← hrest, Text.byteLength_append]
  unfold spellingError? at h ⊢
  split at h
  · simp at h
  rename_i hnul
  split at h
  · simp at h
  split at h
  · simp at h
  rename_i hshort
  have hnul' : ¬q.spelling.elem '\x00' = true := by
    rw [← hrest] at hnul
    simp only [List.elem_eq_mem, decide_eq_true_eq] at hnul ⊢
    exact fun hm => hnul (List.mem_append_left rest hm)
  rw [if_neg hnul', if_neg (by simpa using hne), if_neg (by omega)]

/-- **What lies above something is a directory.** -/
theorem isDirectory_of_parent? {n : Node} (h : d.find p = .ok n)
    (hparent : p.parent? = some parent) (hne : parent.spelling ≠ []) :
    d.isDirectory parent = true := by
  obtain ⟨pre, a, rest, hsplit, hspelling⟩ := Path.spelling_parent? hparent hne
  obtain ⟨l, hl, -⟩ := locate_of_find h
  have hp := Path.splits_split p
  have hpre : parent.spelling <+: p.spelling := by
    rw [← hp.spell_eq, hspelling, hsplit]
    exact Path.spell_prefix _ pre (a :: rest)
  have horigin : d.origin parent = d.origin p := by
    obtain ⟨t, ht⟩ := hpre
    have habsolute : parent.isAbsolute = p.isAbsolute := by
      rw [Path.isAbsolute, Path.isAbsolute, ← ht, List.head?_append_of_ne_nil _ hne]
    rw [origin, origin, habsolute]
  rw [locate] at hl
  split at hl
  · simp at hl
  rename_i herror
  -- the walk along the first stretches ends in the directory that the next one is looked up in
  rw [hsplit] at hl
  obtain ⟨k, hk, hrest⟩ := walk_append hl
  have hdir : d.at? k = some .directory := directory_of_walk_cons hrest
  have hlocate : d.locate parent = .ok k := by
    rw [locate, spellingError?_of_prefix herror hpre hne]
    simp only [horigin]
    rcases hp.split_spell hsplit hspelling hne with hs | hs
    · rw [hs]
      exact hk
    · rw [hs]
      exact walk_append_of_walk hk (walk_cons_idle [] hdir rfl)
  rw [isDirectory, find, hlocate]
  simp only [bind, Except.bind, hdir]

/-- **Creating the directory that a file lies in changes nothing.** -/
theorem createParent_of_find {n : Node} (h : d.find p = .ok n) :
    d.createParent p = (d, .ok ()) := by
  rw [createParent]
  split
  · rfl
  · rename_i parent hparent
    split
    · rfl
    · rename_i hne
      exact createDirectories_of_isDirectory
        (isDirectory_of_parent? h hparent (by simpa using hne))

end Disk

end GnuLint
