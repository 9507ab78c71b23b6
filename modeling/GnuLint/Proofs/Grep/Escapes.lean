import GnuLint.Proofs.Grep.Reading

/-!
# Escapes in translated patterns

In a Perl pattern a backslash makes a letter or a digit into something else, and takes everything
else for what it is. In an extended pattern that is less certain: what a backslash makes of a letter
or a digit is not defined, and there are programs for which it makes operators of `<`, `>`, the
backquote and the single quote, too (`GnuLint.Grep.isOperator`).

Which backslashes of a pattern are escapes depends on the bracket expressions, where they are
ordinary characters, and these end in other places in an extended pattern than the translation
thinks: the name of a class, of a collating symbol or of a class of equivalents goes on until it is
closed. `GnuLint.Grep.Place` follows an extended pattern character by character.

Wherever the translation of a token comes to stand, it adds no other escapes than the character that
the token has after a backslash, or the brace that it is (`GnuLint.Grep.Token.Becomes.adds`); a
backslash in the name of a class is always read in a bracket expression. So the escapes in a
translated pattern are among those of the pattern (`GnuLint.Grep.escapes_toExtended`). None is a
letter or a digit, but the other operators are copied like everything else
(`GnuLint.Grep.escapes_toExtended_wordStart`).
-/

namespace GnuLint.Grep

variable {c : Char} {s t rest first cs ds : Text}

/-! ### Following an extended pattern -/

/-- **Where the next character of an extended pattern stands.** -/
inductive Place
  /-- Outside of bracket expressions. -/
  | outside
  /-- After a backslash outside of bracket expressions. -/
  | escaped
  /-- At the beginning of a bracket expression, where a closing bracket is a member; `mayNegate`
  says whether a caret is none. -/
  | opened (mayNegate : Bool)
  /-- In a bracket expression. -/
  | inside
  /-- In a bracket expression, after an opening bracket. -/
  | bracket
  /-- In the name of a class, of a collating symbol or of a class of equivalents, which ends with a
  mark and a closing bracket. -/
  | named (mark : Char)
  /-- In such a name, after the mark. -/
  | marked (mark : Char)
  deriving DecidableEq, Repr

namespace Place

/-- The place after a character. -/
def next : Place → Char → Place
  | outside, c => if c = '\\' then escaped else if c = '[' then opened true else outside
  | escaped, _ => outside
  | opened mayNegate, c =>
    if mayNegate ∧ c = '^' then opened false else if c = '[' then bracket else inside
  | inside, c => if c = ']' then outside else if c = '[' then bracket else inside
  | bracket, c =>
    if opensClass c then named c
    else if c = ']' then outside else if c = '[' then bracket else inside
  | named mark, c => if c = mark then marked mark else named mark
  | marked mark, c => if c = ']' then inside else if c = mark then marked mark else named mark

/-- The place after a text. -/
def after (place : Place) (s : Text) : Place := s.foldl next place

/-- Whether a place lies in a bracket expression. -/
def isWithin : Place → Bool
  | outside | escaped => false
  | opened _ | inside | bracket | named _ | marked _ => true

variable {place : Place}

/-- A place is after a backslash only if the backslash stands outside of bracket expressions. -/
theorem next_eq_escaped_iff : place.next c = escaped ↔ place = outside ∧ c = '\\' := by
  cases place <;> simp only [next] <;> grind

theorem ne_escaped_of_isWithin (h : place.isWithin = true) : place ≠ escaped := by
  rintro rfl
  cases h

/-- A bracket expression ends only with a closing bracket. -/
theorem isWithin_next (h : place.isWithin = true) (hc : c ≠ ']') :
    (place.next c).isWithin = true := by
  cases place <;> simp only [next] <;> grind [isWithin]

theorem isWithin_next_bracket (h : place ≠ escaped) : (place.next '[').isWithin = true := by
  cases place with
  | outside => rfl
  | escaped => exact absurd rfl h
  | opened => exact isWithin_next rfl (by decide)
  | inside => rfl
  | bracket => rfl
  | named => exact isWithin_next rfl (by decide)
  | marked => exact isWithin_next rfl (by decide)

end Place

/-- The characters after backslashes outside of bracket expressions, from a place on. -/
def escapesFrom : Place → Text → Text
  | _, [] => []
  | place, c :: s => (if place = .escaped then [c] else []) ++ escapesFrom (place.next c) s

/-- **The escapes in an extended pattern**: the characters after backslashes outside of bracket
expressions. -/
def escapes (q : Text) : Text := escapesFrom .outside q

theorem escapesFrom_append (place : Place) (s t : Text) :
    escapesFrom place (s ++ t) = escapesFrom place s ++ escapesFrom (place.after s) t := by
  induction s generalizing place with
  | nil => rfl
  | cons c s ih =>
    rw [List.cons_append, escapesFrom, escapesFrom, ih, List.append_assoc]
    rfl

theorem Place.after_append (place : Place) (s t : Text) :
    place.after (s ++ t) = (place.after s).after t :=
  List.foldl_append

/-! ### What a text adds -/

/-- **A text adds at most some escapes** to a pattern, wherever it stands but right after a
backslash, and does not end with a backslash of its own. -/
def Adds (s cs : Text) : Prop :=
  ∀ place, place ≠ .escaped → (escapesFrom place s).Sublist cs ∧ place.after s ≠ .escaped

theorem Adds.nil : Adds [] [] := fun _ h => ⟨List.Sublist.refl _, h⟩

theorem Adds.mono (h : Adds s cs) (hcs : cs.Sublist ds) : Adds s ds := fun place hplace =>
  ⟨(h place hplace).1.trans hcs, (h place hplace).2⟩

theorem Adds.append (h : Adds s cs) (h' : Adds t ds) : Adds (s ++ t) (cs ++ ds) := by
  intro place hplace
  obtain ⟨hs, hafter⟩ := h place hplace
  obtain ⟨ht, hend⟩ := h' _ hafter
  rw [escapesFrom_append, Place.after_append]
  exact ⟨hs.append ht, hend⟩

/-- Two texts that add no escapes add none together. -/
theorem Adds.append_nothing (h : Adds s []) (h' : Adds t []) : Adds (s ++ t) [] := h.append h'

theorem adds_of_notMem (h : '\\' ∉ s) : Adds s [] := by
  induction s with
  | nil => exact .nil
  | cons c s ih =>
    obtain ⟨hc, hs⟩ := not_or.mp (mt List.mem_cons.mpr h)
    intro place hplace
    have hnext : place.next c ≠ .escaped := fun he => hc (Place.next_eq_escaped_iff.mp he).2.symm
    rw [escapesFrom, if_neg hplace]
    exact ih hs _ hnext

/-- A backslash and a character are an escape, or two characters of a bracket expression. -/
theorem adds_pair (c : Char) : Adds ['\\', c] [c] := by
  intro place hplace
  have hsecond : place.next '\\' ≠ .outside := by
    cases place <;> simp only [Place.next] <;> grind [opensClass]
  refine ⟨?_, fun he => hsecond (Place.next_eq_escaped_iff.mp he).1⟩
  rw [escapesFrom, if_neg hplace, escapesFrom, escapesFrom, List.nil_append, List.append_nil]
  split
  · exact List.Sublist.refl _
  · exact List.nil_sublist _

/-- A text without a closing bracket that begins in a bracket expression stays there. -/
theorem isWithin_after {place : Place} (h : place.isWithin = true) (hs : ']' ∉ s) :
    escapesFrom place s = [] ∧ (place.after s).isWithin = true := by
  induction s generalizing place with
  | nil => exact ⟨rfl, h⟩
  | cons c s ih =>
    obtain ⟨hc, hs⟩ := not_or.mp (mt List.mem_cons.mpr hs)
    rw [escapesFrom, if_neg (Place.ne_escaped_of_isWithin h)]
    exact ih (Place.isWithin_next h fun he => hc he.symm) hs

/-- **Backslashes in the name of a class are no escapes**, wherever the class stands. -/
theorem adds_className {name : Text} (h : ']' ∉ name) : Adds ('[' :: (name ++ [']'])) [] := by
  intro place hplace
  have hwithin := Place.isWithin_next_bracket hplace
  obtain ⟨hname, hafter⟩ := isWithin_after hwithin h
  obtain ⟨hclose, hend⟩ :=
    adds_of_notMem (s := [']']) (by simp) _ (Place.ne_escaped_of_isWithin hafter)
  rw [escapesFrom, if_neg hplace, escapesFrom_append, hname]
  refine ⟨hclose, ?_⟩
  show ((place.next '[').after (name ++ [']'])) ≠ .escaped
  rwa [Place.after_append]

/-! ### What the translation of a token adds -/

/-- The characters that a token may have after a backslash in the translation. -/
def Token.literals : Token → Text
  | escape c => if c.isAlphanum then [] else [c]
  | char c => if c = '\x7b' then [c] else []
  | backslash | groupExtension _ | bracket _ _ _ | interval _ => []

theorem adds_bracketEscape (h : bracketEscape c = .ok first) : Adds first [] := by
  have hmembers : ∀ q ∈ classMembers, '\\' ∉ q := by decide
  obtain ⟨-, hclass⟩ | ⟨-, hliteral, rfl⟩ := bracketEscape_cases h
  · exact adds_of_notMem (hmembers first hclass)
  · refine adds_of_notMem fun hmem => hliteral ?_
    rw [← List.mem_singleton.mp hmem]
    decide

/-- The items of a bracket expression that is closed add no escapes. -/
theorem adds_bracketToExtended {isFirst : Bool} {items : List BracketItem} {stop : BracketEnd}
    (h : ItemsAt isFirst s items stop rest) (htext : bracketToExtended stop items = .ok first) :
    Adds first [] := by
  induction h generalizing first with
  | closed =>
    obtain rfl := Except.ok.inj htext
    exact adds_of_notMem (by decide)
  | unclosed => cases htext
  | backslash => cases htext
  | item _ hat hmore ih =>
    obtain ⟨text, more, hitem, hrest, rfl⟩ := bracketToExtended_cons_iff.mp htext
    refine Adds.append_nothing ?_ (ih hrest)
    cases hat with
    | escape c => exact adds_bracketEscape hitem
    | className hsplit =>
      obtain rfl := Except.ok.inj hitem
      obtain rfl := closed_of_bracketToExtended hrest
      obtain ⟨name, hname, rfl⟩ := hmore.exists_name hsplit
      exact adds_className hname
    | char hc =>
      obtain rfl := Except.ok.inj hitem
      exact adds_of_notMem fun hmem => hc (List.mem_singleton.mp hmem).symm

/-- **The counterpart of a token adds no other escapes** than the character that the token has
after a backslash, or the brace that it is. -/
theorem Token.Becomes.adds {t : Token} (h : t.Becomes s rest first) : Adds first t.literals := by
  cases h with
  | classEscape _ _ hclass =>
    have hclasses : ∀ q ∈ classExpressions, '\\' ∉ q := by decide
    exact (adds_of_notMem (hclasses first hclass)).mono (List.nil_sublist _)
  | @plainEscape c _ hplain =>
    rw [literals, if_neg (by simp [hplain])]
    exact adds_pair c
  | @bracket s _ text items hitems hmembers =>
    have hbody := adds_bracketToExtended hitems hmembers
    cases s.head? == some '^' with
    | true => exact (adds_of_notMem (s := ['[', '^']) (by decide)).append_nothing hbody
    | false => exact (adds_of_notMem (s := ['[']) (by decide)).append_nothing hbody
  | interval _ hbounds => exact adds_of_notMem (hbounds.notMem rfl (by decide))
  | brace => exact adds_pair '\x7b'
  | char _ hc =>
    refine (adds_of_notMem fun hmem => hc ?_).mono (List.nil_sublist _)
    exact (List.mem_singleton.mp hmem).symm

/-! ### The escapes in a translation -/

/-- Whether a backslash makes an operator of a character, at least for some programs. -/
def isOperator (c : Char) : Bool := c.isAlphanum || c ∈ "<>\x60'".toList

theorem Translates.adds {p q : Text} (h : Translates p q) :
    Adds q ((tokens p).flatMap Token.literals) := by
  induction h with
  | nil => exact .nil
  | token hbecomes htokens _ ih =>
    rw [htokens, List.flatMap_cons]
    exact hbecomes.adds.append ih

theorem mem_literals {t : Token} (h : c ∈ t.literals) :
    c.isAlphanum = false ∧ (t = .escape c ∨ c = '\x7b') := by
  cases t with
  | escape e =>
    rw [Token.literals] at h
    split at h
    · cases h
    · rename_i hplain
      obtain rfl := List.mem_singleton.mp h
      exact ⟨by simpa using hplain, .inl rfl⟩
  | char e =>
    rw [Token.literals] at h
    split at h
    · rename_i hbrace
      obtain rfl := List.mem_singleton.mp h
      exact ⟨hbrace ▸ rfl, .inr hbrace⟩
    · cases h
  | backslash | groupExtension | bracket | interval => cases h

/-! #### Patterns without bracket expressions -/

/-- **A text adds some escapes**, and no others, where it stands outside of bracket expressions, and
ends there. -/
def AddsAll (s cs : Text) : Prop :=
  escapesFrom .outside s = cs ∧ Place.outside.after s = .outside

theorem AddsAll.append (h : AddsAll s cs) (h' : AddsAll t ds) : AddsAll (s ++ t) (cs ++ ds) := by
  rw [AddsAll, escapesFrom_append, Place.after_append, h.1, h.2, h'.1]
  exact ⟨rfl, h'.2⟩

theorem addsAll_of_notMem (h : '\\' ∉ s) (h' : '[' ∉ s) : AddsAll s [] := by
  induction s with
  | nil => exact ⟨rfl, rfl⟩
  | cons c s ih =>
    obtain ⟨hc, hs⟩ := not_or.mp (mt List.mem_cons.mpr h)
    obtain ⟨hc', hs'⟩ := not_or.mp (mt List.mem_cons.mpr h')
    have hnext : Place.outside.next c = .outside := by
      rw [Place.next, if_neg fun he => hc he.symm, if_neg fun he => hc' he.symm]
    have hmore : AddsAll s [] := ih hs hs'
    rw [AddsAll, escapesFrom, Place.after, List.foldl_cons, hnext]
    exact hmore

theorem Token.Becomes.addsAll {t : Token} (h : t.Becomes s rest first) (hs : '[' ∉ s) :
    AddsAll first t.literals := by
  cases h with
  | classEscape _ hletter hclass =>
    have hclasses : ∀ q ∈ classExpressions,
        escapesFrom .outside q = [] ∧ Place.outside.after q = .outside := by decide
    rw [literals, if_pos hletter]
    exact hclasses first hclass
  | plainEscape _ hplain =>
    rw [literals, if_neg (by simp [hplain])]
    exact ⟨rfl, rfl⟩
  | bracket => exact absurd List.mem_cons_self hs
  | interval _ hbounds =>
    exact addsAll_of_notMem (hbounds.notMem rfl (by decide)) (hbounds.notMem rfl (by decide))
  | brace => exact ⟨rfl, rfl⟩
  | char _ hc hbracket hbrace =>
    rw [literals, if_neg hbrace]
    exact addsAll_of_notMem (fun hmem => hc (List.mem_singleton.mp hmem).symm)
      fun hmem => hbracket (List.mem_singleton.mp hmem).symm

theorem Translates.addsAll {p q : Text} (h : Translates p q) (hp : '[' ∉ p) :
    AddsAll q ((tokens p).flatMap Token.literals) := by
  induction h with
  | nil => exact ⟨rfl, rfl⟩
  | token hbecomes htokens _ ih =>
    rw [htokens, List.flatMap_cons]
    exact (hbecomes.addsAll hp).append (ih fun hmem => hp (hbecomes.isAt.suffix.subset hmem))

/-! #### All patterns -/

/-- **The escapes in a translated pattern** are among the characters that the pattern has after
backslashes and the braces that open no interval, and are all of them if the pattern has no bracket
expressions. So an operator among them is one that the pattern has after a backslash, outside of
bracket expressions, and none is a letter or a digit. -/
theorem escapes_toExtended {p q : Text} (h : toExtended p = .ok q) :
    (escapes q).Sublist ((tokens p).flatMap Token.literals) ∧
      ('[' ∉ p → escapes q = (tokens p).flatMap Token.literals) ∧
      ∀ c ∈ escapes q, isOperator c = true → .escape c ∈ tokens p ∧ c.isAlphanum = false := by
  have htranslates := translates_of_toExtended h
  have hsublist := (htranslates.adds .outside (by decide)).1
  refine ⟨hsublist, fun hp => (htranslates.addsAll hp).1, fun c hc hoperator => ?_⟩
  obtain ⟨t, ht, hliteral⟩ := List.mem_flatMap.mp (hsublist.subset hc)
  obtain ⟨hplain, rfl | rfl⟩ := mem_literals hliteral
  · exact ⟨ht, hplain⟩
  · exact absurd hoperator (by decide)

/-- A pattern with an operator, and an angle bracket that is none in a bracket expression. -/
theorem escapes_toExtended_mixed :
    toExtended "\\<\\w\\.\x7bx[[:alpha:]\\>]".toList =
        .ok "\\<[[:alnum:]_]\\.\\\x7bx[[:alpha:]>]".toList ∧
      escapes "\\<[[:alnum:]_]\\.\\\x7bx[[:alpha:]>]".toList = "<.\x7b".toList ∧
      .escape '<' ∈ tokens "\\<\\w\\.\x7bx[[:alpha:]\\>]".toList := by
  have h : toExtended "\\<\\w\\.\x7bx[[:alpha:]\\>]".toList =
      .ok "\\<[[:alnum:]_]\\.\\\x7bx[[:alpha:]>]".toList := by decide +kernel
  exact ⟨h, by decide +kernel, ((escapes_toExtended h).2.2 '<' (by decide +kernel) (by decide)).1⟩

/-- **An angle bracket after a backslash**, which a Perl pattern takes for an angle bracket, is
copied together with the backslash, which may make it the beginning of a word. -/
theorem escapes_toExtended_wordStart :
    toExtended "\\<a".toList = .ok "\\<a".toList ∧ perlEscape? '<' = some (plain '<') ∧
      '<' ∈ escapes "\\<a".toList ∧ isOperator '<' = true :=
  ⟨by decide +kernel, rfl, by decide, by decide⟩

end GnuLint.Grep
