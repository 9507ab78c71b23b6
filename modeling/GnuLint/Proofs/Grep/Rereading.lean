import GnuLint.Proofs.Grep.Reading

/-!
# Translating a translation

An extended pattern that is the translation of a Perl pattern can be taken for a Perl pattern
again. Reading it as one gives, for each token of the first pattern, its image
(`GnuLint.Grep.Token.image`): a class of characters has become a bracket expression, a brace that
opens no interval has got a backslash, and the items of a bracket expression have lost theirs. The
image of a token has the counterpart that the token has, so that the second translation writes what
the first one wrote (`GnuLint.Grep.toExtended_toExtended`).

Whether the images are what is read is decided by what each of them may be followed by. There are
three places to look at.

* A parenthesis that has been copied might come before a question mark. But then it came before it
  in the first pattern already, which is refused for that
  (`GnuLint.Grep.head?_of_translation`).
* The first item of a bracket expression might become a caret or a closing bracket. Neither of them
  may lose its backslash.
* **An opening bracket that has lost its backslash may come before a colon**, or an opening bracket
  before a colon that has lost its own, and the two then begin a class by name. Nothing else that is
  left in a bracket expression takes two characters to read, and this is a gap in the translation:
  that of `[\[:a]` is `[[:a]`, where the class is not closed, and which is refused for it
  (`GnuLint.Grep.toExtended_toExtended_bracket`).

The condition that the theorem puts on the pattern, that its tokens be stable
(`GnuLint.Grep.Token.IsStable`), excludes the third case and no other.
-/

namespace GnuLint.Grep

variable {c : Char} {s rest p q first more text : Text} {t : Token} {item : BracketItem}
  {items : List BracketItem} {stop : BracketEnd} {isFirst afterQuantifier : Bool}

/-! ### Images and their items -/

/-- **The image of an item** of a bracket expression: the items that its counterpart is made of. -/
def BracketItem.image : BracketItem → List BracketItem
  | escape 'd' => [char '0', char '-', char '9']
  | escape 'w' => [className ":alnum:]".toList, char '_']
  | escape 's' => [className ":space:]".toList]
  | escape c => [char c]
  | className text => [className text]
  | char c => [char c]

/-- **The image of a token**: the token that its counterpart is. -/
def Token.image : Token → Token
  | escape 'd' => bracket false (BracketItem.image (.escape 'd')) .closed
  | escape 'D' => bracket true (BracketItem.image (.escape 'd')) .closed
  | escape 'w' => bracket false (BracketItem.image (.escape 'w')) .closed
  | escape 'W' => bracket true (BracketItem.image (.escape 'w')) .closed
  | escape 's' => bracket false (BracketItem.image (.escape 's')) .closed
  | escape 'S' => bracket true (BracketItem.image (.escape 's')) .closed
  | bracket negated items stop => bracket negated (items.flatMap BracketItem.image) stop
  | char '\x7b' => escape '\x7b'
  | t => t

/-- **Items that can be read one by one**: an opening bracket is not followed by a colon, which
would make the beginning of a class by name of the two. -/
def AreReadable (items : List BracketItem) : Prop :=
  items.IsChain fun item item' => item = .char '[' → item' ≠ .char ':'

/-- **Items of which one may come right before the other**: not an opening bracket before a colon,
be it with backslashes or without. -/
def BracketItem.MayPrecede (item item' : BracketItem) : Prop :=
  item ∈ [char '[', escape '['] → item' ∉ [char ':', escape ':']

instance (item item' : BracketItem) : Decidable (item.MayPrecede item') :=
  inferInstanceAs (Decidable (_ → _))

/-- **A token that is stable**: if it is a bracket expression, each of its items may come before
the next one. -/
def Token.IsStable (t : Token) : Prop := t.items.IsChain BracketItem.MayPrecede

instance (t : Token) : Decidable t.IsStable := inferInstanceAs (Decidable (List.IsChain _ _))

theorem BracketItem.image_escape (h : c.isAlphanum = false) : (escape c).image = [char c] := by
  have hclasses : "dws".toList ⊆ "dDwWsS".toList := by decide
  have hne : c ∉ "dws".toList := fun hc => by
    rw [isAlphanum_of_mem_classes (hclasses hc)] at h
    cases h
  unfold image
  split <;> simp_all

theorem Token.image_escape (h : c.isAlphanum = false) : (escape c).image = escape c := by
  have hne : c ∉ "dDwWsS".toList := fun hc => by
    rw [isAlphanum_of_mem_classes hc] at h
    cases h
  unfold image
  split <;> simp_all

theorem Token.image_char (h : c ≠ '\x7b') : (char c).image = char c := by
  unfold image
  split <;> simp_all

theorem BracketItem.image_ne_nil (item : BracketItem) : item.image ≠ [] := by
  unfold image
  split <;> simp

theorem BracketItem.areReadable_image (item : BracketItem) : AreReadable item.image := by
  unfold image
  split <;> simp [AreReadable]

theorem BracketItem.getLast?_image :
    item.image.getLast? = some (char '[') ↔ item ∈ [char '[', escape '['] := by
  unfold image
  split <;> simp

theorem BracketItem.head?_image :
    item.image.head? = some (char ':') ↔ item ∈ [char ':', escape ':'] := by
  unfold image
  split <;> simp

/-- **The images of some items can be read one by one** exactly if each of the items may come before
the next one. -/
theorem areReadable_flatMap_image :
    AreReadable (items.flatMap BracketItem.image) ↔ items.IsChain BracketItem.MayPrecede := by
  have hne : [] ∉ items.map BracketItem.image := fun h => by
    obtain ⟨item, -, himage⟩ := List.mem_map.mp h
    exact item.image_ne_nil himage
  have hreadable : ∀ image ∈ items.map BracketItem.image, AreReadable image :=
    List.forall_mem_map.mpr fun item _ => item.areReadable_image
  have hchain := List.isChain_flatten
    (R := fun item item' => item = BracketItem.char '[' → item' ≠ .char ':') hne
  rw [List.flatMap_def, AreReadable, hchain]
  refine (and_iff_right hreadable).trans ?_
  rw [List.isChain_map]
  refine List.IsChain.iff fun item item' => ?_
  rw [BracketItem.MayPrecede, ← BracketItem.getLast?_image, ← BracketItem.head?_image]
  constructor
  · intro h hlast hhead
    exact h _ hlast _ hhead rfl rfl
  · rintro h _ hlast _ hhead rfl rfl
    exact h hlast hhead

theorem Token.isStable_of_image (h : AreReadable t.image.items) : t.IsStable := by
  cases t with
  | bracket => exact areReadable_flatMap_image.mp h
  | escape | backslash | groupExtension | interval | char => exact .nil

/-! ### What is read can be read -/

/-- The first of the items is a colon exactly if the text begins with one. -/
theorem ItemsAt.head?_eq_colon_iff (h : ItemsAt isFirst s items stop rest) :
    items.head? = some (.char ':') ↔ s.head? = some ':' := by
  cases h with
  | closed => simp
  | unclosed => simp
  | backslash => simp
  | item _ hat _ => cases hat <;> simp

/-- **The items that are read** from a text can be read one by one. -/
theorem ItemsAt.areReadable (h : ItemsAt isFirst s items stop rest) : AreReadable items := by
  induction h with
  | closed | unclosed | backslash => exact .nil
  | item _ hat hmore ih =>
    refine List.isChain_cons.mpr ⟨?_, ih⟩
    rintro next hnext rfl rfl
    cases hat with
    | char _ hname => exact hname rfl (hmore.head?_eq_colon_iff.mp hnext)

theorem Token.IsAt.areReadable (h : t.IsAt s rest) : AreReadable t.items := by
  cases h with
  | bracket hitems => exact hitems.areReadable
  | escape | backslash | interval | char => exact .nil

theorem areReadable_of_mem_tokens (h : t ∈ tokens s) : AreReadable t.items := by
  induction s using tokens_induction with
  | nil => cases h
  | cons c s ih =>
    rw [tokens_cons] at h
    obtain rfl | h := List.mem_cons.mp h
    · by_cases hgroup : c = '(' ∧ s.head? = some '?'
      · obtain ⟨rfl, hs⟩ := hgroup
        have htoken : token '(' s = (.groupExtension ('(' :: s.take 3), s.drop 3) := if_pos hs
        rw [htoken]
        exact .nil
      · rw [← piece_eq_token hgroup]
        exact (isAt_piece c s).areReadable
    · exact ih h

/-! ### Reading an image -/

/-- A character with no meaning of its own in a bracket expression is an item. -/
theorem ItemsAt.cons_char (hc : c ∉ "\\[]".toList) (hmore : ItemsAt false more items stop rest) :
    ItemsAt isFirst (c :: more) (.char c :: items) stop rest := by
  simp only [String.reduceToList, List.mem_cons, List.not_mem_nil, or_false, not_or] at hc
  obtain ⟨hescape, hopening, hclosing⟩ := hc
  exact .item (fun h => absurd (Option.some.inj h) hclosing)
    (.char hescape fun h => absurd h hopening) hmore

/-- A character is an item if it can be read apart from what follows. -/
theorem ItemsAt.cons_char_of_areReadable (hc : c ≠ '\\') (hfirst : c = ']' → isFirst = true)
    (hmore : ItemsAt false more items stop rest) (hread : AreReadable (.char c :: items)) :
    ItemsAt isFirst (c :: more) (.char c :: items) stop rest := by
  refine .item (fun h => hfirst (Option.some.inj h)) (.char hc ?_) hmore
  rintro rfl hcolon
  exact (List.isChain_cons.mp hread).1 _ (hmore.head?_eq_colon_iff.mpr hcolon) rfl rfl

theorem ItemsAt.cons_className (name : Text) (hname : ']' ∉ ':' :: name)
    (hmore : ItemsAt false more items stop rest) :
    ItemsAt isFirst ('[' :: ':' :: (name ++ ']' :: more))
      (.className (':' :: (name ++ [']'])) :: items) stop rest := by
  have hsplit : splitBracket (':' :: (name ++ ']' :: more)) = (':' :: (name ++ [']']), more) :=
    splitBracket_append hname more
  exact .item (by simp) (.className hsplit) hmore

/-- **The counterpart of an item is read as its image**, before items that can come after it. -/
theorem BracketItem.IsAt.itemsAt_image {s' after : Text} {others : List BracketItem}
    (hat : item.IsAt s s') (hfirst : s.head? = some ']' → isFirst = true)
    (hclosed : ItemsAt false s' others .closed after) (hp : item.toExtended = .ok p)
    (hmore : ItemsAt false more items stop rest) (hread : AreReadable (item.image ++ items)) :
    ItemsAt isFirst (p ++ more) (item.image ++ items) stop rest := by
  cases hat with
  | escape c =>
    obtain ⟨hclass, -⟩ | ⟨hplain, hliteral, rfl⟩ := bracketEscape_cases hp
    · simp only [String.reduceToList, List.mem_cons, List.not_mem_nil, or_false] at hclass
      rcases hclass with rfl | rfl | rfl
      · obtain rfl := Except.ok.inj hp
        exact ((hmore.cons_char (by decide)).cons_char (by decide)).cons_char (by decide)
      · obtain rfl := Except.ok.inj hp
        exact (hmore.cons_char (by decide)).cons_className "alnum:".toList (by decide)
      · obtain rfl := Except.ok.inj hp
        exact hmore.cons_className "space:".toList (by decide)
    · rw [image_escape hplain] at hread ⊢
      have hescape : c ≠ '\\' := fun h => hliteral (h ▸ by decide)
      have hclosing : c ≠ ']' := fun h => hliteral (h ▸ by decide)
      exact hmore.cons_char_of_areReadable hescape (fun h => absurd h hclosing) hread
  | @className s text _ hsplit =>
    obtain rfl := Except.ok.inj hp
    obtain ⟨name, hname, rfl⟩ := hclosed.exists_name hsplit
    have happend := append_splitBracket (':' :: s)
    rw [hsplit] at happend
    cases name with
    | nil => cases happend
    | cons c name =>
      obtain rfl : c = ':' := (List.cons.inj happend).1
      have htext : '[' :: (':' :: name ++ [']']) ++ more = '[' :: ':' :: (name ++ ']' :: more) := by
        simp
      rw [htext]
      exact hmore.cons_className name hname
  | char hc _ =>
    obtain rfl := Except.ok.inj hp
    exact hmore.cons_char_of_areReadable hc (fun h => hfirst (congrArg some h)) hread

/-- **The counterpart of a bracket expression is read as the images of its items**, if these can be
read one by one. -/
theorem ItemsAt.image (h : ItemsAt isFirst s items stop rest) (hstop : stop = .closed)
    (htext : bracketToExtended stop items = .ok text)
    (hread : AreReadable (items.flatMap BracketItem.image)) (more : Text) :
    ItemsAt isFirst (text ++ more) (items.flatMap BracketItem.image) .closed more := by
  induction h generalizing text with
  | closed =>
    obtain rfl := Except.ok.inj htext
    exact .closed
  | unclosed | backslash => cases hstop
  | item hfirst hat hmore ih =>
    obtain ⟨first, text', hitem, hitems, rfl⟩ := bracketToExtended_cons_iff.mp htext
    subst hstop
    rw [List.append_assoc]
    exact hat.itemsAt_image hfirst hmore hitem (ih rfl hitems hread.right_of_append) hread

/-- A bracket expression that is negated or not, and its items. A caret that negates is none of
them, and none of them becomes one. -/
theorem isAt_bracket_image {negated : Bool} (h : ItemsAt true s items .closed rest)
    (hcaret : negated = false → s.head? ≠ some '^')
    (htext : bracketToExtended .closed items = .ok text)
    (hread : AreReadable (items.flatMap BracketItem.image)) (more : Text) :
    (Token.bracket negated (items.flatMap BracketItem.image) .closed).IsAt
      ('[' :: (if negated then '^' :: text else text) ++ more) more := by
  have himage : ItemsAt true (text ++ more) (items.flatMap BracketItem.image) .closed more :=
    h.image rfl htext hread more
  cases negated with
  | true => exact Token.IsAt.bracket (s := '^' :: (text ++ more)) himage
  | false =>
    have hhead : ((text ++ more).head? == some '^') = false := by
      cases h with
      | item _ hat _ =>
        obtain ⟨p, text', hitem, -, rfl⟩ := bracketToExtended_cons_iff.mp htext
        obtain ⟨d, t, rfl, hd⟩ := hat.head?_counterpart (hcaret rfl) hitem
        simpa using hd
    have hbody : bracketBody (text ++ more) = text ++ more := by
      rw [bracketBody, hhead]
      rfl
    have hat := Token.IsAt.bracket (s := text ++ more) (hbody.symm ▸ himage)
    rwa [hhead] at hat

/-- A class of characters is the bracket expression that has it for its only item. -/
theorem exists_bracket_of_class (h : c ∈ "dDwWsS".toList) :
    ∃ negated e text, (Token.escape c).image =
        .bracket negated ([BracketItem.escape e].flatMap BracketItem.image) .closed ∧
      bracketToExtended .closed [.escape e] = .ok text ∧
      escapeToExtended c = .ok ('[' :: if negated then '^' :: text else text) := by
  simp only [String.reduceToList, List.mem_cons, List.not_mem_nil, or_false] at h
  rcases h with rfl | rfl | rfl | rfl | rfl | rfl
  · exact ⟨false, 'd', "0-9]".toList, rfl, rfl, rfl⟩
  · exact ⟨true, 'd', "0-9]".toList, rfl, rfl, rfl⟩
  · exact ⟨false, 'w', "[:alnum:]_]".toList, rfl, rfl, rfl⟩
  · exact ⟨true, 'w', "[:alnum:]_]".toList, rfl, rfl, rfl⟩
  · exact ⟨false, 's', "[:space:]]".toList, rfl, rfl, rfl⟩
  · exact ⟨true, 's', "[:space:]]".toList, rfl, rfl, rfl⟩

/-- **The counterpart of a token is read as its image**, whatever follows it. -/
theorem Token.IsAt.isAt_image (h : t.IsAt s rest) (htext : t.toExtended afterQuantifier = .ok first)
    (hstable : t.IsStable) (more : Text) : t.image.IsAt (first ++ more) more := by
  cases h with
  | escape c =>
    obtain ⟨hclass, -⟩ | ⟨hplain, rfl⟩ := escapeToExtended_cases htext
    · obtain ⟨negated, e, text, himage, hmembers, hfirst⟩ := exists_bracket_of_class hclass
      obtain rfl := Except.ok.inj (hfirst.symm.trans htext)
      have hread : AreReadable ([BracketItem.escape e].flatMap BracketItem.image) :=
        areReadable_flatMap_image.mpr (.singleton _)
      have hitems : ItemsAt true ['\\', e, ']'] [.escape e] .closed [] :=
        .item (fun _ => rfl) (.escape e _) .closed
      rw [himage]
      exact isAt_bracket_image hitems (fun _ => by simp) hmembers hread more
    · rw [image_escape hplain]
      exact .escape c more
  | backslash => cases htext
  | @bracket s _ items stop hitems =>
    obtain ⟨text, hmembers, hfirst⟩ := bind_eq_ok_iff.mp htext
    obtain rfl := Except.ok.inj hfirst
    obtain rfl := closed_of_bracketToExtended hmembers
    have hread := areReadable_flatMap_image.mpr hstable
    refine isAt_bracket_image hitems (fun hhead => ?_) hmembers hread more
    have hbody : bracketBody s = s := by
      rw [bracketBody, hhead]
      rfl
    rw [hbody]
    simpa using hhead
  | interval _ hbounds =>
    obtain rfl := Except.ok.inj htext
    exact .interval more hbounds
  | char hc hbracket hnone =>
    cases (Token.IsAt.char hc hbracket hnone).becomes htext with
    | brace => exact .escape '\x7b' more
    | char _ _ _ hbrace =>
      rw [image_char hbrace]
      exact .char hc hbracket fun h => absurd h hbrace

/-! ### Reading a translation -/

theorem head?_of_mem_classExpressions (h : q ∈ classExpressions) : q.head? = some '[' := by
  have hall : ∀ q ∈ classExpressions, q.head? = some '[' := by decide
  exact hall q h

theorem Token.Becomes.ne_nil (h : t.Becomes s rest first) : first ≠ [] := by
  rintro rfl
  cases h with
  | classEscape _ _ hclass => cases head?_of_mem_classExpressions hclass

/-- A counterpart that does not begin like an escape, a bracket expression or an interval is the
character that its token is. -/
theorem Token.Becomes.eq_char (h : t.Becomes s rest (c :: first)) (hc : c ∉ "\\[\x7b".toList) :
    s = c :: rest ∧ first = [] := by
  cases h with
  | classEscape _ _ hclass =>
    obtain rfl := Option.some.inj (head?_of_mem_classExpressions hclass)
    exact absurd (by decide) hc
  | plainEscape | bracket | interval | brace => exact absurd (by decide) hc
  | char => exact ⟨rfl, rfl⟩

/-- A translation begins with a question mark only if the pattern does. -/
theorem head?_of_translation (h : tokensToExtended afterQuantifier (tokens p) = .ok q)
    (hq : q.head? = some '?') : p.head? = some '?' := by
  cases p with
  | nil =>
    obtain rfl := Except.ok.inj h
    cases hq
  | cons c s =>
    obtain ⟨first, more, hfirst, -, rfl⟩ := tokensToExtended_cons_eq_ok_iff.mp h
    have hbecomes := (Token.isAt_of_toExtended hfirst).becomes hfirst
    cases first with
    | nil => exact absurd rfl hbecomes.ne_nil
    | cons d first =>
      obtain rfl : d = '?' := Option.some.inj hq
      rw [(hbecomes.eq_char (by decide)).1]
      rfl

/-- **A translation is read as the images of the tokens** of the pattern, if these are stable. -/
theorem tokens_translation (h : tokensToExtended afterQuantifier (tokens p) = .ok q)
    (hstable : ∀ t ∈ tokens p, t.IsStable) : tokens q = (tokens p).map Token.image := by
  induction p using tokens_induction generalizing afterQuantifier q with
  | nil =>
    obtain rfl := Except.ok.inj h
    rfl
  | cons c s ih =>
    obtain ⟨first, more, hfirst, hmore, rfl⟩ := tokensToExtended_cons_eq_ok_iff.mp h
    rw [tokens_cons] at hstable ⊢
    obtain ⟨hhead, htail⟩ := List.forall_mem_cons.mp hstable
    have hat := Token.isAt_of_toExtended hfirst
    have hbecomes := hat.becomes hfirst
    have himage := hat.isAt_image hfirst hhead more
    cases first with
    | nil => exact absurd rfl hbecomes.ne_nil
    | cons d first =>
      -- a group with an extension would have begun in the pattern already
      have hgroup : ¬(d = '(' ∧ (first ++ more).head? = some '?') := by
        rintro ⟨rfl, hquestion⟩
        obtain ⟨hs, rfl⟩ := hbecomes.eq_char (by decide)
        obtain ⟨rfl, hrest⟩ := List.cons.inj hs
        have htoken : (token '(' s).1 = .groupExtension ('(' :: s.take 3) := by
          rw [token, if_pos (hrest ▸ head?_of_translation hmore hquestion)]
        rw [htoken] at hfirst
        cases hfirst
      have htoken : token d (first ++ more) = ((token c s).1.image, more) := by
        rw [← piece_eq_token hgroup]
        exact piece_of_isAt himage
      rw [List.cons_append, tokens_cons, htoken, List.map_cons, ih hmore htail]

/-! ### Translating an image -/

theorem bracketToExtended_cons_char (c : Char) (hmore : bracketToExtended stop items = .ok more) :
    bracketToExtended stop (.char c :: items) = .ok (c :: more) :=
  bracketToExtended_cons_iff.mpr ⟨[c], more, rfl, hmore, rfl⟩

theorem bracketToExtended_cons_className (name : Text)
    (hmore : bracketToExtended stop items = .ok more) :
    bracketToExtended stop (.className name :: items) = .ok ('[' :: (name ++ more)) :=
  bracketToExtended_cons_iff.mpr ⟨'[' :: name, more, rfl, hmore, rfl⟩

/-- The image of an item has the counterpart of the item. -/
theorem bracketToExtended_image (hitem : item.toExtended = .ok first)
    (hmore : bracketToExtended stop items = .ok more) :
    bracketToExtended stop (item.image ++ items) = .ok (first ++ more) := by
  cases item with
  | escape c =>
    obtain ⟨hclass, -⟩ | ⟨hplain, -, rfl⟩ := bracketEscape_cases hitem
    · simp only [String.reduceToList, List.mem_cons, List.not_mem_nil, or_false] at hclass
      rcases hclass with rfl | rfl | rfl
      · obtain rfl := Except.ok.inj hitem
        show bracketToExtended stop (.char '0' :: .char '-' :: .char '9' :: items) =
          .ok ('0' :: '-' :: '9' :: more)
        exact bracketToExtended_cons_char '0'
          (bracketToExtended_cons_char '-' (bracketToExtended_cons_char '9' hmore))
      · obtain rfl := Except.ok.inj hitem
        exact bracketToExtended_cons_className ":alnum:]".toList
          (bracketToExtended_cons_char '_' hmore)
      · obtain rfl := Except.ok.inj hitem
        exact bracketToExtended_cons_className ":space:]".toList hmore
    · rw [BracketItem.image_escape hplain]
      exact bracketToExtended_cons_char c hmore
  | className name =>
    obtain rfl := Except.ok.inj hitem
    exact bracketToExtended_cons_className name hmore
  | char c =>
    obtain rfl := Except.ok.inj hitem
    exact bracketToExtended_cons_char c hmore

theorem bracketToExtended_flatMap_image (h : bracketToExtended stop items = .ok text) :
    bracketToExtended stop (items.flatMap BracketItem.image) = .ok text := by
  induction items generalizing text with
  | nil => exact h
  | cons item items ih =>
    obtain ⟨first, more, hitem, hmore, rfl⟩ := bracketToExtended_cons_iff.mp h
    exact bracketToExtended_image hitem (ih hmore)

/-- The image of a token has the counterpart of the token, and is a quantifier if the token is
one. -/
theorem Token.toExtended_image (h : t.toExtended afterQuantifier = .ok first) :
    t.image.toExtended afterQuantifier = .ok first ∧ t.image.isQuantifier = t.isQuantifier := by
  cases t with
  | escape c =>
    obtain ⟨hclass, -⟩ | ⟨hplain, -⟩ := escapeToExtended_cases h
    · obtain ⟨negated, e, text, himage, hmembers, hfirst⟩ := exists_bracket_of_class hclass
      obtain rfl := Except.ok.inj (hfirst.symm.trans h)
      have himages := bracketToExtended_flatMap_image hmembers
      rw [himage]
      exact ⟨bind_eq_ok_iff.mpr ⟨text, himages, rfl⟩, rfl⟩
    · rw [image_escape hplain]
      exact ⟨h, rfl⟩
  | bracket negated items stop =>
    obtain ⟨text, hmembers, hfirst⟩ := bind_eq_ok_iff.mp h
    have himages := bracketToExtended_flatMap_image hmembers
    exact ⟨bind_eq_ok_iff.mpr ⟨text, himages, hfirst⟩, rfl⟩
  | char c =>
    by_cases hbrace : c = '\x7b'
    · subst hbrace
      have htext : (char '\x7b').toExtended afterQuantifier = .ok ['\\', '\x7b'] := by
        cases afterQuantifier <;> rfl
      exact ⟨htext.symm.trans h, rfl⟩
    · rw [image_char hbrace]
      exact ⟨h, rfl⟩
  | backslash | groupExtension | interval => exact ⟨h, rfl⟩

theorem tokensToExtended_map_image {ts : List Token}
    (h : tokensToExtended afterQuantifier ts = .ok q) :
    tokensToExtended afterQuantifier (ts.map Token.image) = .ok q := by
  induction ts generalizing afterQuantifier q with
  | nil => exact h
  | cons t ts ih =>
    obtain ⟨first, more, hfirst, hmore, rfl⟩ := tokensToExtended_cons_iff.mp h
    obtain ⟨himage, hquantifier⟩ := Token.toExtended_image hfirst
    refine tokensToExtended_cons_iff.mpr ⟨first, more, himage, ?_, rfl⟩
    rw [hquantifier]
    exact ih hmore

/-- **Translating a translation changes nothing**, if no bracket expression of the pattern has an
opening bracket right before a colon: the translation has a translation, which is the translation
itself. The condition is just what it takes for the translation to be read again as it was written,
token by token. One that is read otherwise may be refused or changed, but need not be:
`[\[:alpha:]]` becomes `[[:alpha:]]`, which is another expression and is copied. -/
theorem toExtended_toExtended (h : toExtended p = .ok q) :
    ((∀ t ∈ tokens p, t.IsStable) → toExtended q = .ok q) ∧
      (tokens q = (tokens p).map Token.image ↔ ∀ t ∈ tokens p, t.IsStable) := by
  refine ⟨fun hstable => ?_, fun htokens t ht => ?_, tokens_translation h⟩
  · rw [toExtended, tokens_translation h hstable]
    exact tokensToExtended_map_image h
  · -- the items of the image are among those that have been read
    have hmem : t.image ∈ tokens q := by
      rw [htokens]
      exact List.mem_map_of_mem ht
    exact Token.isStable_of_image (areReadable_of_mem_tokens hmem)

/-- A pattern with classes, a bracket before a dot, a brace that opens no interval and one that
does. -/
theorem toExtended_toExtended_classes :
    toExtended "\\d\x7bx[^\\s\\[.\\:]a\x7b2,3\x7d\\.".toList =
        .ok "[0-9]\\\x7bx[^[:space:][.:]a\x7b2,3\x7d\\.".toList ∧
      toExtended "[0-9]\\\x7bx[^[:space:][.:]a\x7b2,3\x7d\\.".toList =
        .ok "[0-9]\\\x7bx[^[:space:][.:]a\x7b2,3\x7d\\.".toList := by
  have h : toExtended "\\d\x7bx[^\\s\\[.\\:]a\x7b2,3\x7d\\.".toList =
      .ok "[0-9]\\\x7bx[^[:space:][.:]a\x7b2,3\x7d\\.".toList := by decide +kernel
  exact ⟨h, (toExtended_toExtended h).1 (by decide +kernel)⟩

/-- **A bracket before a colon**: the translation of the pattern leaves out the backslash, and what
is left is read as the beginning of a class by name that nothing closes. -/
theorem toExtended_toExtended_bracket :
    toExtended "[\\[:a]".toList = .ok "[[:a]".toList ∧
      toExtended "[[:a]".toList = .error .unclosedBracket := by
  decide +kernel

end GnuLint.Grep
