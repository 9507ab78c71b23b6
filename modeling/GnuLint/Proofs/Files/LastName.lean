import GnuLint.Proofs.Files.Parent

/-!
# The last name of a path

Wherever a path with a last name leads, that name is the innermost one of the location
(`GnuLint.Disk.head?_of_locate`, `GnuLint.Disk.head?_of_place`), so paths with different
last names never lead to the same location. A path taken inside a directory keeps its last
name (`GnuLint.Path.fileName?_join`), and two spellings of the same path lead to the same
location, if the second one ends in a name (`GnuLint.Disk.locate_of_same`).
-/

namespace GnuLint

/-- Whether a part can only stand at the beginning of a path. -/
def PathPart.isStart : PathPart → Bool
  | root | here => true
  | up | name _ => false

namespace Path

variable {p q : Path} {n s t : Text}

/-! ### Stretches between slashes -/

theorem splitSlashes_append (s t : Text) :
    splitSlashes (s ++ '/' :: t) = splitSlashes s ++ splitSlashes t := by
  simp only [splitSlashes_eq_splitOn, List.splitOn_append_cons_self]

theorem splitSlashes_of_notMem (h : '/' ∉ s) : splitSlashes s = [s] := by
  rw [splitSlashes_eq_splitOn, List.splitOn_eq_singleton h]

theorem part_injective : Function.Injective part := by
  intro s t h
  unfold part at h
  split at h <;> split at h <;> simp_all

theorem part_eq_name_iff : part s = .name n ↔ s = n ∧ n ≠ ['.', '.'] := by
  unfold part
  split
  · simp_all
  · rename_i hs
    simp only [PathPart.name.injEq, iff_self_and]
    rintro rfl
    simpa using hs

theorem isAbsolute_iff : p.isAbsolute = true ↔ p.split.1 = some .root := by
  rw [isAbsolute, beq_iff_eq]
  rcases hsplit : p.split with ⟨start, parts⟩
  have h := p.splits_split
  rw [hsplit] at h
  generalize p.spelling = s at h
  cases h <;> simp_all

theorem isStart_part (s : Text) : (part s).isStart = false := by
  unfold part
  split <;> rfl

theorem isStart_of_mem_start {x : PathPart} (h : x ∈ p.split.1) : x.isStart = true := by
  rcases hsplit : p.split with ⟨start, parts⟩
  have hs := p.splits_split
  rw [hsplit] at hs h
  generalize p.spelling = s at hs
  cases hs <;> cases h <;> rfl

theorem components_eq (p : Path) :
    p.components = p.split.1.toList ++ (p.split.2.filter (!isIdle ·)).map part := rfl

/-- What a path begins with, and the stretches in it that count for something, can be told
from its parts. -/
theorem eq_of_components_eq (h : p.components = q.components) :
    p.split.1 = q.split.1 ∧
      p.split.2.filter (!isIdle ·) = q.split.2.filter (!isIdle ·) := by
  have hstart (r : Path) : r.components.filter PathPart.isStart = r.split.1.toList := by
    have hall : ∀ x ∈ r.split.1.toList, x.isStart = true := fun x hx =>
      isStart_of_mem_start (Option.mem_toList.mp hx)
    have hnone : ∀ x ∈ (r.split.2.filter (!isIdle ·)).map part, ¬x.isStart = true := by
      intro x hx
      obtain ⟨s, -, rfl⟩ := List.mem_map.mp hx
      simp [isStart_part]
    rw [components_eq, List.filter_append, List.filter_eq_self.mpr hall,
      List.filter_eq_nil_iff.mpr hnone, List.append_nil]
  have htoList : p.split.1.toList = q.split.1.toList := by rw [← hstart p, ← hstart q, h]
  have hparts := h
  rw [components_eq, components_eq, htoList, List.append_cancel_left_eq] at hparts
  refine ⟨?_, List.map_injective_iff.mpr part_injective hparts⟩
  rw [← Option.head?_toList (o := p.split.1), htoList, Option.head?_toList]

/-! ### Last names -/

/-- **The last name of a path** is the last stretch that counts for something, unless it
leads up. -/
theorem fileName?_eq_some_iff :
    p.fileName? = some n ↔
      (p.split.2.filter (!isIdle ·)).getLast? = some n ∧ n ≠ ['.', '.'] := by
  have hlast : p.components.getLast? = some (.name n) ↔
      (p.split.2.filter (!isIdle ·)).getLast? = some n ∧ n ≠ ['.', '.'] := by
    rw [components_eq, List.getLast?_append, List.getLast?_map]
    cases hparts : (p.split.2.filter (!isIdle ·)).getLast? with
    | none =>
      have hstart : p.split.1.toList.getLast? ≠ some (.name n) := fun h => by
        cases isStart_of_mem_start (Option.mem_toList.mp (List.mem_of_getLast? h))
      simpa using hstart
    | some s =>
      simp only [Option.map_some, Option.some_or, Option.some.injEq]
      exact part_eq_name_iff
  rw [← hlast, fileName?]
  split <;> simp_all

theorem splitSlashes_getLast? (hn : '/' ∉ n) (h : n = s ∨ ('/' :: n) <:+ s) :
    (splitSlashes s).getLast? = some n := by
  rcases h with rfl | ⟨t, rfl⟩
  · rw [splitSlashes_of_notMem hn]
    rfl
  · rw [splitSlashes_append, splitSlashes_of_notMem hn, List.getLast?_append]
    rfl

/-- The last stretch of a path that ends in a name, after a slash or alone. -/
theorem getLast?_split (hn : '/' ∉ n) (hidle : isIdle n = false)
    (h : n = p.spelling ∨ ('/' :: n) <:+ p.spelling) : p.split.2.getLast? = some n := by
  have hs := p.splits_split
  generalize p.spelling = s, p.split.1 = start, p.split.2 = parts at h hs
  have hslash {c : Char} {t : Text} (h : ('/' :: n) <:+ c :: t) : n = t ∨ ('/' :: n) <:+ t := by
    rcases List.suffix_cons_iff.mp h with h | h
    · exact .inl (List.cons.inj h).2
    · exact .inr h
  cases hs with
  | root t =>
    refine splitSlashes_getLast? hn (hslash (h.resolve_left ?_))
    rintro rfl
    simp at hn
  | dot =>
    rcases h with rfl | h
    · cases hidle
    · have hlength := h.length_le
      obtain rfl : n = [] := by simpa using hlength
      cases hidle
  | here t =>
    refine splitSlashes_getLast? hn (hslash ((hslash (h.resolve_left ?_)).resolve_left ?_))
    · rintro rfl
      simp at hn
    · rintro rfl
      simp at hn
  | bare => exact splitSlashes_getLast? hn h

/-- A path taken inside a directory ends in what it was. -/
theorem getLast?_split_join (dir : Path) (hn : '/' ∉ n) (hidle : isIdle n = false) :
    (dir.join ⟨n⟩).split.2.getLast? = some n := by
  refine getLast?_split hn hidle ?_
  unfold join
  split
  · exact .inl rfl
  split
  · rename_i hlast
    obtain ⟨t, ht⟩ := List.getLast?_eq_some_iff.mp hlast
    exact .inr ⟨t, by simp [ht]⟩
  · exact .inr (List.suffix_append _ _)

/-- A last name is a stretch of its own. -/
theorem of_fileName? (h : p.fileName? = some n) :
    '/' ∉ n ∧ isIdle n = false ∧ n ≠ ['.', '.'] := by
  obtain ⟨hlast, hup⟩ := fileName?_eq_some_iff.mp h
  obtain ⟨hmem, hidle⟩ := List.mem_filter.mp (List.mem_of_getLast? hlast)
  exact ⟨p.splits_split.slash_notMem hmem, by simpa using hidle, hup⟩

theorem filter_getLast? {parts : List Text} (h : parts.getLast? = some n)
    (hidle : isIdle n = false) : (parts.filter (!isIdle ·)).getLast? = some n := by
  obtain ⟨start, rfl⟩ := List.getLast?_eq_some_iff.mp h
  simp [hidle]

/-- **A path taken inside a directory keeps its last name.** -/
theorem fileName?_join (dir : Path) (h : p.fileName? = some n) :
    (dir.join ⟨n⟩).fileName? = some n := by
  obtain ⟨hslash, hidle, hup⟩ := of_fileName? h
  exact fileName?_eq_some_iff.mpr
    ⟨filter_getLast? (getLast?_split_join dir hslash hidle) hidle, hup⟩

end Path

namespace Disk

variable {d : Disk} {p q : Path} {n : Text} {l m : Location}

/-- Stretches that count for nothing can be left out. -/
theorem walk_filter {s : List Text} (h : d.walk l s = .ok m) :
    d.walk l (s.filter (!Path.isIdle ·)) = .ok m := by
  induction s generalizing l with
  | nil => exact h
  | cons a s ih =>
    have hl := directory_of_walk_cons h
    cases ha : Path.isIdle a with
    | true =>
      rw [walk_cons_idle _ hl ha] at h
      rw [List.filter_cons_of_neg (by simp [ha])]
      exact ih h
    | false =>
      rw [walk_cons_name _ hl ha] at h
      rw [List.filter_cons_of_pos (by simp [ha]), walk_cons_name _ hl ha]
      cases hnext : descend l a with
      | error e => simp [hnext, Except.bind] at h
      | ok next =>
        rw [hnext] at h
        exact ih h

/-- Stretches that count for nothing can be added before a name. -/
theorem walk_of_walk_filter {s : List Text} (h : d.walk l (s.filter (!Path.isIdle ·)) = .ok m)
    (hlast : ∀ a ∈ s.getLast?, Path.isIdle a = false) : d.walk l s = .ok m := by
  induction s generalizing l with
  | nil => exact h
  | cons a s ih =>
    have hlast' : ∀ b ∈ s.getLast?, Path.isIdle b = false := by
      cases s with
      | nil => simp
      | cons b s => rwa [List.getLast?_cons_cons] at hlast
    cases ha : Path.isIdle a with
    | true =>
      rw [List.filter_cons_of_neg (by simp [ha])] at h
      have hne : s.filter (!Path.isIdle ·) ≠ [] := by
        -- an idle stretch is not the last one
        cases hs : s.getLast? with
        | none =>
          rw [List.getLast?_eq_none_iff.mp hs] at hlast
          rw [hlast a rfl] at ha
          cases ha
        | some b =>
          intro hnil
          have := Path.filter_getLast? hs (hlast' b hs)
          rw [hnil] at this
          cases this
      obtain ⟨b, rest, hrest⟩ := List.exists_cons_of_ne_nil hne
      have hl : d.at? l = some .directory := by
        rw [hrest] at h
        exact directory_of_walk_cons h
      rw [walk_cons_idle _ hl ha]
      exact ih h hlast'
    | false =>
      rw [List.filter_cons_of_pos (by simp [ha])] at h
      have hl := directory_of_walk_cons h
      rw [walk_cons_name _ hl ha] at h ⊢
      cases hnext : descend l a with
      | error e => simp [hnext, Except.bind] at h
      | ok next =>
        rw [hnext] at h
        exact ih h hlast'

/-- The location of a name in a directory begins with the name. -/
theorem head?_of_descend (h : descend l n = .ok m) (hup : n ≠ ['.', '.']) : m.head? = some n := by
  rw [descend, if_neg hup] at h
  split at h
  · cases h
  · rw [← Except.ok.inj h]
    rfl

theorem head?_of_walk {s : List Text} (h : d.walk l s = .ok m)
    (hn : (s.filter (!Path.isIdle ·)).getLast? = some n) (hup : n ≠ ['.', '.']) :
    m.head? = some n := by
  obtain ⟨start, hstart⟩ := List.getLast?_eq_some_iff.mp hn
  have hidle : Path.isIdle n = false := by
    have hmem : n ∈ s.filter (!Path.isIdle ·) := List.mem_of_getLast? hn
    simpa using (List.mem_filter.mp hmem).2
  have hwalk := walk_filter h
  rw [hstart] at hwalk
  obtain ⟨k, -, hk⟩ := walk_append hwalk
  rw [walk_cons_name _ (directory_of_walk_cons hk) hidle] at hk
  cases hnext : descend k n with
  | error e => simp [hnext, Except.bind] at hk
  | ok next =>
    rw [hnext] at hk
    obtain rfl : next = m := Except.ok.inj hk
    exact head?_of_descend hnext hup

/-- **Where a path leads to has its last name.** -/
theorem head?_of_locate (h : d.locate p = .ok l) (hn : p.fileName? = some n) :
    l.head? = some n := by
  rw [locate] at h
  split at h
  · cases h
  · obtain ⟨hlast, hup⟩ := Path.fileName?_eq_some_iff.mp hn
    exact head?_of_walk h hlast hup

/-- **Where some stretches end in a new place**: they end in a name, perhaps followed by
slashes, and what is before it leads to the directory of the place. -/
theorem placeFrom_cases {stretches : List Text} {slashed : Bool}
    (h : d.placeFrom l stretches = .ok (.entry m slashed)) :
    ∃ start last slashes k, stretches = start ++ last :: slashes ∧ Path.isIdle last = false ∧
      last ≠ ['.', '.'] ∧ (∀ a ∈ slashes, a = []) ∧ (slashed = false → slashes = []) ∧
      d.walk l (start ++ [[]]) = .ok k ∧ descend k last = .ok m := by
  by_cases hbare : stretches.rdropWhile List.isEmpty = []
  · have hbare' : (stretches.reverse.dropWhile List.isEmpty).reverse = [] := hbare
    simp [placeFrom, hbare'] at h
  obtain ⟨start, last, slashes, hs, hne, hslashes, hbare⟩ := eq_append_slashes hbare
  have hbare' : (stretches.reverse.dropWhile List.isEmpty).reverse = start ++ [last] := hbare
  simp only [placeFrom, hbare', List.getLast?_append, List.getLast?_singleton, Option.some_or,
    List.dropLast_concat] at h
  split at h
  · cases h
  rename_i k hwalk
  split at h
  · cases h
  rename_i hdots
  obtain ⟨hdot, hup⟩ : last ≠ ['.'] ∧ last ≠ ['.', '.'] := by simpa using hdots
  obtain ⟨next, hnext, hentry⟩ := map_eq_ok_iff.mp h
  obtain ⟨rfl, rfl⟩ := Place.entry.inj hentry
  refine ⟨start, last, slashes, k, hs, by simp [Path.isIdle, hne, hdot], hup, hslashes, ?_,
    hwalk, hnext⟩
  intro hslashed
  simpa [hs] using hslashed

/-- **Where a path may write has its last name.** -/
theorem head?_of_place {slashed : Bool} (h : d.place p = .ok (.entry l slashed))
    (hn : p.fileName? = some n) : l.head? = some n := by
  obtain ⟨hlast, hup⟩ := Path.fileName?_eq_some_iff.mp hn
  rw [place] at h
  split at h
  · cases h
  obtain ⟨start, last, slashes, k, hs, hidle, -, hslashes, -, -, hnext⟩ := placeFrom_cases h
  have hnone : slashes.filter (!Path.isIdle ·) = [] := List.filter_eq_nil_iff.mpr fun a ha => by
    rw [hslashes a ha]
    decide
  have hfilter : (p.split.2.filter (!Path.isIdle ·)).getLast? = some last := by
    rw [hs, List.filter_append, List.filter_cons_of_pos (by simp [hidle]), hnone]
    simp
  obtain rfl : last = n := Option.some.inj (hfilter.symm.trans hlast)
  exact head?_of_descend hnext hup

/-- **A path leads to the place that it may write at**, unless it ends in a slash. -/
theorem locate_of_place (h : d.place p = .ok (.entry l false)) : d.locate p = .ok l := by
  rw [place] at h
  rw [locate]
  split at h
  · cases h
  obtain ⟨start, last, slashes, k, hs, hidle, -, -, hnil, hwalk, hnext⟩ := placeFrom_cases h
  obtain ⟨k', hstart, hk⟩ := walk_append hwalk
  have hdir : d.at? k' = some .directory := directory_of_walk_cons hk
  obtain rfl : k' = k := eq_of_walk_idle (by simp [Path.isIdle]) hk
  rw [hs, hnil rfl]
  refine walk_append_of_walk hstart ?_
  rw [walk_cons_name _ hdir hidle, hnext]
  rfl

/-- **Two spellings of the same path lead to the same location**, if nothing is wrong with
the second one and it ends in a name. -/
theorem locate_of_same (hsame : p.same q = true) (h : d.locate p = .ok l)
    (hq : spellingError? q = none) (hlast : ∀ a ∈ q.split.2.getLast?, Path.isIdle a = false) :
    d.locate q = .ok l := by
  obtain ⟨hstart, hparts⟩ := Path.eq_of_components_eq (Path.same_iff.mp hsame)
  have horigin : d.origin q = d.origin p := by
    have habsolute : q.isAbsolute = p.isAbsolute := by
      rw [Bool.eq_iff_iff, Path.isAbsolute_iff, Path.isAbsolute_iff, hstart]
    rw [origin, origin, habsolute]
  rw [locate] at h
  split at h
  · cases h
  · have hwalk := walk_filter h
    rw [hparts] at hwalk
    rw [locate, hq, horigin]
    exact walk_of_walk_filter hwalk hlast

end Disk

end GnuLint
