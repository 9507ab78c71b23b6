import GnuLint.Proofs.Grep.Reading

/-!
# Reading names of classes literally

In a bracket expression, a bracket and a colon begin a class by name, which goes on to the next
closing bracket. If there is none, they are still taken for the beginning of a class, which then
goes on to the end of the pattern (`GnuLint.Grep.ItemsAt`). Taken literally, however, nothing goes
on to a closing bracket that is not there: the bracket and the colon are two characters then, and
what comes after them is read on (`GnuLint.Grep.LiteralItemsAt`).

Both readings end at the end of the pattern in this case, so that they tell the same bracket
expressions from those that are not closed, and the same items in them
(`GnuLint.Grep.literalItemsAt_closed_iff`). They differ in what is read of a bracket expression that
is not closed: the backslashes after the colon are escapes in the literal reading only.
-/

namespace GnuLint.Grep

variable {c : Char} {s s' rest rest' : Text} {isFirst : Bool} {item item' : BracketItem}
  {items items' : List BracketItem} {stop stop' : BracketEnd} {t t' : Token}

/-! ### Items -/

/-- **An item, taken literally**: a class by name is closed. -/
inductive BracketItem.IsLiterallyAt : BracketItem → Text → Text → Prop
  /-- A backslash and a character. -/
  | escape (c : Char) (rest : Text) : (escape c).IsLiterallyAt ('\\' :: c :: rest) rest
  /-- A class by name, up to the next closing bracket. -/
  | className {name : Text} (rest : Text) : ']' ∉ name →
    (className (':' :: name ++ [']'])).IsLiterallyAt ('[' :: ':' :: (name ++ ']' :: rest)) rest
  /-- Any other character. -/
  | char {c : Char} {rest : Text} : c ≠ '\\' →
    ¬(c = '[' ∧ rest.head? = some ':' ∧ ']' ∈ rest) → (char c).IsLiterallyAt (c :: rest) rest

/-- An item is read from at least one character. -/
theorem BracketItem.IsLiterallyAt.suffix_tail (h : item.IsLiterallyAt (c :: s) rest) :
    rest <:+ s := by
  cases h with
  | escape e => exact List.suffix_cons e rest
  | @className name => exact ⟨':' :: name ++ [']'], by simp⟩
  | char => exact List.suffix_refl _

theorem BracketItem.IsLiterallyAt.unique (h : item.IsLiterallyAt s rest)
    (h' : item'.IsLiterallyAt s rest') : item = item' ∧ rest = rest' := by
  cases h with
  | escape c =>
    cases h' with
    | escape => exact ⟨rfl, rfl⟩
    | char hc => exact absurd rfl hc
  | @className name _ hname =>
    generalize htext : name ++ ']' :: rest = text at h'
    cases h' with
    | className rest' hname' =>
      rename_i name'
      have hsplit := congrArg splitBracket htext
      rw [splitBracket_append hname, splitBracket_append hname'] at hsplit
      obtain ⟨htaken, hrest⟩ := Prod.mk.inj hsplit
      obtain rfl := List.append_cancel_right htaken
      exact ⟨rfl, hrest⟩
    | char _ hplain => exact absurd ⟨rfl, rfl, by simp [← htext]⟩ hplain
  | char hc hplain =>
    cases h' with
    | escape => exact absurd rfl hc
    | className => exact absurd ⟨rfl, rfl, by simp⟩ hplain
    | char => exact ⟨rfl, rfl⟩

theorem BracketItem.exists_isLiterallyAt (h : c = '\\' → s ≠ []) :
    ∃ item rest, BracketItem.IsLiterallyAt item (c :: s) rest := by
  by_cases hc : c = '\\'
  · obtain ⟨e, rest, rfl⟩ := List.exists_cons_of_ne_nil (h hc)
    subst hc
    exact ⟨_, _, .escape e rest⟩
  by_cases hname : c = '[' ∧ s.head? = some ':' ∧ ']' ∈ s
  · obtain ⟨rfl, hcolon, hclose⟩ := hname
    obtain ⟨s, rfl⟩ := List.head?_eq_some_iff.mp hcolon
    have hclose : ']' ∈ s := by simpa using hclose
    obtain ⟨name, rest, rfl, hname⟩ := List.eq_append_cons_of_mem hclose
    exact ⟨_, _, .className rest hname⟩
  · exact ⟨_, _, .char hc hname⟩

/-! ### Bracket expressions -/

/-- **The items of a bracket expression, taken literally**, how it ends, and what follows it;
`isFirst` says whether nothing comes before them. -/
inductive LiteralItemsAt :
    (isFirst : Bool) → Text → List BracketItem → BracketEnd → Text → Prop
  /-- The closing bracket. -/
  | closed {rest : Text} : LiteralItemsAt false (']' :: rest) [] .closed rest
  /-- The end of the pattern. -/
  | unclosed {isFirst : Bool} : LiteralItemsAt isFirst [] [] .unclosed []
  /-- A backslash at the end of the pattern. -/
  | backslash {isFirst : Bool} : LiteralItemsAt isFirst ['\\'] [] .backslash []
  /-- An item, and those after it. -/
  | item {isFirst : Bool} {s s' rest : Text} {item : BracketItem} {items : List BracketItem}
      {stop : BracketEnd} :
    (s.head? = some ']' → isFirst = true) → item.IsLiterallyAt s s' →
      LiteralItemsAt false s' items stop rest →
      LiteralItemsAt isFirst s (item :: items) stop rest

theorem LiteralItemsAt.suffix (h : LiteralItemsAt isFirst s items stop rest) : rest <:+ s := by
  induction h with
  | closed => exact List.suffix_cons _ _
  | unclosed => exact List.suffix_refl []
  | backslash => exact List.nil_suffix
  | @item _ s _ _ _ _ _ _ hitem _ ih =>
    cases s with
    | nil => cases hitem
    | cons c s => exact (ih.trans hitem.suffix_tail).trans (List.suffix_cons c s)

theorem LiteralItemsAt.unique (h : LiteralItemsAt isFirst s items stop rest)
    (h' : LiteralItemsAt isFirst s items' stop' rest') :
    items = items' ∧ stop = stop' ∧ rest = rest' := by
  induction h generalizing items' with
  | closed =>
    cases h' with
    | closed => exact ⟨rfl, rfl, rfl⟩
    | item hfirst => cases hfirst rfl
  | unclosed =>
    cases h' with
    | unclosed => exact ⟨rfl, rfl, rfl⟩
    | item _ hitem => cases hitem
  | backslash =>
    cases h' with
    | backslash => exact ⟨rfl, rfl, rfl⟩
    | item _ hitem =>
      cases hitem with
      | char hc => exact absurd rfl hc
  | item hfirst hitem _ ih =>
    cases h' with
    | closed => cases hfirst rfl
    | unclosed => cases hitem
    | backslash =>
      cases hitem with
      | char hc => exact absurd rfl hc
    | item _ hitem' hmore' =>
      obtain ⟨rfl, rfl⟩ := hitem.unique hitem'
      obtain ⟨rfl, hend⟩ := ih hmore'
      exact ⟨rfl, hend⟩

theorem exists_literalItemsAt (isFirst : Bool) (s : Text) :
    ∃ items stop rest, LiteralItemsAt isFirst s items stop rest := by
  induction hn : s.length using Nat.strongRecOn generalizing s isFirst with
  | _ n ih =>
    match s with
    | [] => exact ⟨_, _, _, .unclosed⟩
    | c :: s =>
      by_cases hlast : c = '\\' ∧ s = []
      · obtain ⟨rfl, rfl⟩ := hlast
        exact ⟨_, _, _, .backslash⟩
      by_cases hclose : c = ']' ∧ isFirst = false
      · obtain ⟨rfl, rfl⟩ := hclose
        exact ⟨_, _, _, .closed⟩
      obtain ⟨item, s', hitem⟩ :=
        BracketItem.exists_isLiterallyAt fun hc hs => hlast ⟨hc, hs⟩
      have hshorter : s'.length < n := hn ▸ Nat.lt_succ_of_le hitem.suffix_tail.length_le
      obtain ⟨items, stop, rest, hmore⟩ := ih _ hshorter false s' rfl
      have hfirst : (c :: s).head? = some ']' → isFirst = true := by
        intro hc
        by_contra hnot
        exact hclose ⟨Option.some.inj hc, by simpa using hnot⟩
      exact ⟨_, _, _, .item hfirst hitem hmore⟩

/-! ### Where both readings agree -/

/-- A bracket expression that is closed has a closing bracket. -/
theorem LiteralItemsAt.mem_of_closed (h : LiteralItemsAt isFirst s items stop rest)
    (hstop : stop = .closed) : ']' ∈ s := by
  induction h with
  | closed => exact List.mem_cons_self
  | unclosed => cases hstop
  | backslash => cases hstop
  | @item _ s _ _ _ _ _ _ hitem _ ih =>
    cases s with
    | nil => cases hitem
    | cons c s => exact List.mem_cons_of_mem c (hitem.suffix_tail.subset (ih hstop))

theorem LiteralItemsAt.itemsAt (h : LiteralItemsAt isFirst s items stop rest)
    (hstop : stop = .closed) : ItemsAt isFirst s items stop rest := by
  induction h with
  | closed => exact .closed
  | unclosed => exact .unclosed
  | backslash => exact .backslash
  | item hfirst hitem hmore ih =>
    refine .item hfirst ?_ (ih hstop)
    cases hitem with
    | escape c => exact .escape c _
    | @className name _ hname =>
      have hname' : ']' ∉ ':' :: name := by simp [hname]
      exact .className (splitBracket_append hname' _)
    | char hc hplain =>
      -- a colon after a bracket would be the beginning of a class that is closed
      exact .char hc fun hbracket hcolon => hplain ⟨hbracket, hcolon, hmore.mem_of_closed hstop⟩

theorem ItemsAt.literalItemsAt (h : ItemsAt isFirst s items stop rest) (hstop : stop = .closed) :
    LiteralItemsAt isFirst s items stop rest := by
  induction h with
  | closed => exact .closed
  | unclosed => exact .unclosed
  | backslash => exact .backslash
  | item hfirst hitem hmore ih =>
    refine .item hfirst ?_ (ih hstop)
    cases hitem with
    | escape c => exact .escape c _
    | @className s _ _ hsplit =>
      subst hstop
      obtain ⟨text, htext, rfl⟩ := hmore.exists_name hsplit
      have happend := append_splitBracket (':' :: s)
      rw [hsplit, List.append_assoc] at happend
      -- the name begins with the colon, which is no closing bracket
      cases text with
      | nil => cases happend
      | cons c name =>
        obtain ⟨rfl, rfl⟩ := List.cons.inj happend
        exact .className _ (not_or.mp (mt List.mem_cons.mpr htext)).2
    | char hc hplain => exact .char hc fun h => hplain h.1 h.2.1

/-- **Both readings tell the same bracket expressions**, and the same items in them. -/
theorem literalItemsAt_closed_iff :
    LiteralItemsAt isFirst s items .closed rest ↔ ItemsAt isFirst s items .closed rest :=
  ⟨fun h => h.itemsAt rfl, fun h => h.literalItemsAt rfl⟩

/-! ### Tokens -/

/-- **The token that a text begins with, taken literally.** -/
inductive Token.IsLiterallyAt : Token → Text → Text → Prop
  /-- A bracket expression. A caret right after the opening bracket is no item. -/
  | bracket {s rest : Text} {items : List BracketItem} {stop : BracketEnd} :
    LiteralItemsAt true (bracketBody s) items stop rest →
      (bracket (s.head? == some '^') items stop).IsLiterallyAt ('[' :: s) rest
  /-- Any other token. -/
  | other {t : Token} {c : Char} {s rest : Text} : c ≠ '[' → t.IsAt (c :: s) rest →
    t.IsLiterallyAt (c :: s) rest

theorem Token.IsLiterallyAt.suffix_tail (h : t.IsLiterallyAt (c :: s) rest) : rest <:+ s := by
  cases h with
  | bracket hitems => exact hitems.suffix.trans (bracketBody_suffix s)
  | other _ hat =>
    have hsuffix := piece_suffix c s
    rwa [isAt_iff.mp hat] at hsuffix

theorem Token.IsLiterallyAt.unique (h : t.IsLiterallyAt s rest) (h' : t'.IsLiterallyAt s rest') :
    t = t' ∧ rest = rest' := by
  cases h with
  | bracket hitems =>
    cases h' with
    | bracket hitems' =>
      obtain ⟨rfl, rfl, rfl⟩ := hitems.unique hitems'
      exact ⟨rfl, rfl⟩
    | other hc => exact absurd rfl hc
  | other hc hat =>
    cases h' with
    | bracket => exact absurd rfl hc
    | other _ hat' => exact Prod.mk.inj ((isAt_iff.mp hat).symm.trans (isAt_iff.mp hat'))

theorem Token.exists_isLiterallyAt (c : Char) (s : Text) :
    ∃ t rest, Token.IsLiterallyAt t (c :: s) rest := by
  by_cases hc : c = '['
  · subst hc
    obtain ⟨items, stop, rest, hitems⟩ := exists_literalItemsAt true (bracketBody s)
    exact ⟨_, _, .bracket hitems⟩
  · exact ⟨_, _, .other hc (isAt_piece c s)⟩

/-- **Both readings tell the same tokens**, but for the bracket expressions that are not closed. -/
theorem Token.isLiterallyAt_iff
    (h : ∀ negated items stop, t = .bracket negated items stop → stop = .closed) :
    t.IsLiterallyAt s rest ↔ t.IsAt s rest := by
  constructor
  · intro hat
    cases hat with
    | bracket hitems =>
      obtain rfl := h _ _ _ rfl
      exact .bracket (literalItemsAt_closed_iff.mp hitems)
    | other _ hat => exact hat
  · intro hat
    cases s with
    | nil => cases hat
    | cons c s =>
      by_cases hc : c = '['
      · subst hc
        cases hat with
        | bracket hitems =>
          obtain rfl := h _ _ _ rfl
          exact .bracket (literalItemsAt_closed_iff.mpr hitems)
        | char _ hbracket => exact absurd rfl hbracket
      · exact .other hc hat

end GnuLint.Grep
