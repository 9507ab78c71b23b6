/-!
# Chains of steps that may fail

A chain of two steps succeeds exactly if the first step succeeds and the second one
succeeds on what the first one gave. A proof about a chain that has succeeded takes it
apart step by step with the statements below. Where only the first step can fail, a failure
of the chain is one of this step.

Where every step can fail, the failure of the chain is that of the first one that does
(`GnuLint.failure?_bind`).
-/

namespace GnuLint

variable {ε α β γ : Type}

theorem bind_eq_ok_iff {x : Except ε α} {f : α → Except ε β} {b : β} :
    x >>= f = .ok b ↔ ∃ a, x = .ok a ∧ f a = .ok b := by
  cases x with
  | error e => simp [bind, Except.bind]
  | ok a => simp [bind, Except.bind]

/-- Two steps whose results are put together. -/
theorem bind_bind_eq_ok_iff {x : Except ε α} {y : Except ε β} {f : α → β → γ} {c : γ} :
    (x >>= fun a => y >>= fun b => .ok (f a b)) = .ok c ↔
      ∃ a b, x = .ok a ∧ y = .ok b ∧ c = f a b := by
  rw [bind_eq_ok_iff]
  constructor
  · rintro ⟨a, ha, h⟩
    obtain ⟨b, hb, hc⟩ := bind_eq_ok_iff.mp h
    exact ⟨a, b, ha, hb, (Except.ok.inj hc).symm⟩
  · rintro ⟨a, b, ha, hb, rfl⟩
    exact ⟨a, ha, bind_eq_ok_iff.mpr ⟨b, hb, rfl⟩⟩

theorem map_eq_ok_iff {x : Except ε α} {f : α → β} {b : β} :
    x.map f = .ok b ↔ ∃ a, x = .ok a ∧ f a = b := by
  cases x with
  | error e => simp [Except.map]
  | ok a => simp [Except.map]

theorem map_eq_error_iff {x : Except ε α} {f : α → β} {e : ε} :
    x.map f = .error e ↔ x = .error e := by
  cases x with
  | error e' => simp [Except.map]
  | ok a => simp [Except.map]

theorem exists_ok_iff {x : Except ε α} : (∃ a, x = .ok a) ↔ ∀ e, x ≠ .error e := by
  cases x <;> simp

/-- What holds of every result of a step holds of all results of taking the step for each element
of a list. -/
theorem forall_mem_of_mapM {f : α → Except ε β} {p : β → Prop} {as : List α} {bs : List β}
    (h : as.mapM f = .ok bs) (hp : ∀ a ∈ as, ∀ b, f a = .ok b → p b) : ∀ b ∈ bs, p b := by
  induction as generalizing bs with
  | nil =>
    obtain rfl := Except.ok.inj h
    exact List.forall_mem_nil p
  | cons a as ih =>
    rw [List.mapM_cons] at h
    obtain ⟨b, bs, hb, hbs, rfl⟩ := bind_bind_eq_ok_iff.mp h
    obtain ⟨ha, has⟩ := List.forall_mem_cons.mp hp
    exact List.forall_mem_cons.mpr ⟨ha b hb, ih hbs has⟩

/-! ### How a chain fails -/

/-- **How a step fails**, if it does. -/
def failure? : Except ε α → Option ε
  | .error e => some e
  | .ok _ => none

theorem failure?_eq_some_iff {x : Except ε α} {e : ε} : failure? x = some e ↔ x = .error e := by
  cases x with
  | error e' => simp [failure?]
  | ok a => simp [failure?]

theorem failure?_eq_none_iff {x : Except ε α} : failure? x = none ↔ ∃ a, x = .ok a := by
  cases x with
  | error e => simp [failure?]
  | ok a => simp [failure?]

/-- **A chain fails as its first step does**, or as the second one if that fails in the same way
on whatever the first step may give. -/
theorem failure?_bind {x : Except ε α} {f : α → Except ε β} {later : Option ε}
    (h : ∀ a, failure? (f a) = later) : failure? (x >>= f) = (failure? x).or later := by
  cases x with
  | error e => rfl
  | ok a => exact h a

end GnuLint
