import Mathlib.Order.Defs.Unbundled
import ProofOfExistence.Run

/-!
# Relations between the states before and after a computation

`Run.Respects R body` says that `body` takes every state to an `R`-related one, whatever its
outcome.  For a preorder `R` this holds of a composed computation when it holds of its parts, so a
property of a whole system comes from one lemma for each primitive step.

`Run.rel_bind` and `Run.rel_bind_from` are sharper forms at one state: the second part may use what
the first one found.

`Run.Composes Ψ` says that a relation between computations on two states holds of sequences whose
parts it holds of.  A property of computations is such a relation that looks at one side only:
`Run.Completes`, that a computation raises no fault, and `Run.Ends`, which distinguishes the states
that faults lead to.
-/

namespace ProofOfExistence.Run

variable {σ α β : Type}

/-- Computations that do the same to every state are equal. -/
protected theorem ext {x y : Run σ α} (h : ∀ w, x.exec w = y.exec w) : x = y :=
  funext h

/-- A sequence that ends with a value got one from its first part. -/
theorem exec_bind_eq_ok {x : Run σ α} {f : α → Run σ β} {w w' : σ} {b : β}
    (h : (x >>= f).exec w = (.ok b, w')) :
    ∃ a w₁, x.exec w = (.ok a, w₁) ∧ (f a).exec w₁ = (.ok b, w') := by
  rw [exec_bind] at h
  rcases hexec : x.exec w with ⟨_ | a, w₁⟩ <;> rw [hexec] at h
  · cases h
  · exact ⟨a, w₁, rfl, h⟩

/-- A sequence fails where its first part does, or else where its second part does. -/
theorem exec_bind_eq_error {x : Run σ α} {f : α → Run σ β} {w w' : σ} {e : Fault}
    (h : (x >>= f).exec w = (.error e, w')) :
    x.exec w = (.error e, w') ∨
      ∃ a w₁, x.exec w = (.ok a, w₁) ∧ (f a).exec w₁ = (.error e, w') := by
  rw [exec_bind] at h
  rcases hexec : x.exec w with ⟨_ | a, w₁⟩ <;> rw [hexec] at h
  · cases h
    exact .inl rfl
  · exact .inr ⟨a, w₁, rfl, h⟩

/-- A function applied to the value of a computation makes no fault of its own. -/
theorem exec_map_eq_error {f : α → β} {x : Run σ α} {w w' : σ} {e : Fault}
    (h : (f <$> x).exec w = (.error e, w')) : x.exec w = (.error e, w') := by
  rw [exec_map] at h
  generalize x.exec w = result at h ⊢
  obtain ⟨_ | a, w₁⟩ := result <;> cases h
  rfl

/-- Whatever its outcome, a computation takes each state to an `R`-related one. -/
def Respects (R : σ → σ → Prop) (body : Run σ α) : Prop :=
  ∀ w, R w (body.exec w).2

theorem Respects.rel_of_exec {R : σ → σ → Prop} {body : Run σ α} (h : Respects R body)
    {outcome : Except Fault α} {w w' : σ} (hexec : body.exec w = (outcome, w')) : R w w' := by
  have hrel := h w
  rwa [hexec] at hrel

/-! ### Traces -/

/-- A trace with one more entry is split at this entry or at an earlier one. -/
theorem concat_eq_split {τ : Type} {trace past rest : List τ} {x y : τ}
    (h : trace ++ [x] = past ++ y :: rest) :
    (trace = past ∧ x = y) ∨ ∃ later, rest = later ++ [x] ∧ trace = past ++ y :: later := by
  rcases List.eq_nil_or_concat rest with rfl | ⟨later, z, rfl⟩
  · obtain ⟨rfl, hlast⟩ := List.append_inj' h rfl
    exact .inl ⟨rfl, (List.cons.inj hlast).1⟩
  · rw [List.concat_eq_append, ← List.cons_append, ← List.append_assoc] at h
    obtain ⟨rfl, hlast⟩ := List.append_inj' h rfl
    exact .inr ⟨later, by rw [List.concat_eq_append, hlast], rfl⟩

/-! ### Steps -/

section Steps

variable (R : σ → σ → Prop) [Std.Refl R]

theorem respects_pure (a : α) : Respects R (pure a : Run σ α) :=
  fun w => Std.Refl.refl w

theorem respects_throw (e : Fault) : Respects R (throw e : Run σ α) :=
  fun w => Std.Refl.refl w

theorem respects_ofExcept (r : Except Fault α) : Respects R (ofExcept r) :=
  fun w => Std.Refl.refl w

end Steps

/-! ### Composition -/

variable {R : σ → σ → Prop}

theorem respects_observe {x : Run σ α} (h : Respects R x) : Respects R (observe x) :=
  h

theorem respects_map {x : Run σ α} (h : Respects R x) (f : α → β) : Respects R (f <$> x) := by
  intro w
  rw [exec_map]
  exact h w

/-- A sequence ends at a state related to `w₀` if its first part does when it ends with a fault, and
its second part does at the state and the value that the first one left. -/
theorem rel_bind_from {x : Run σ α} {f : α → Run σ β} {w₀ w : σ}
    (hx : ∀ e w', x.exec w = (.error e, w') → R w₀ w')
    (hf : ∀ a w', x.exec w = (.ok a, w') → R w₀ ((f a).exec w').2) :
    R w₀ ((x >>= f).exec w).2 := by
  rw [exec_bind]
  rcases h : x.exec w with ⟨r, w'⟩
  cases r with
  | error e => exact hx e w' h
  | ok a => exact hf a w' h

/-- A sequence is related to its start at one state if its first part is, and its second part at
the state and the value that the first one left. -/
theorem rel_bind [IsPreorder σ R] {x : Run σ α} {f : α → Run σ β} {w : σ}
    (hx : R w (x.exec w).2)
    (hf : ∀ a w', x.exec w = (.ok a, w') → R w' ((f a).exec w').2) :
    R w ((x >>= f).exec w).2 := by
  refine rel_bind_from (fun e w' h => ?_) fun a w' h => ?_
  -- After a fault the second part does not run.
  · rwa [h] at hx
  · rw [h] at hx
    exact IsTrans.trans _ _ _ hx (hf a w' h)

theorem respects_bind [IsPreorder σ R] {x : Run σ α} {f : α → Run σ β}
    (hx : Respects R x) (hf : ∀ a, Respects R (f a)) : Respects R (x >>= f) :=
  fun w => rel_bind (hx w) fun a w' _ => hf a w'

/-! ### Relations between computations -/

/-- A relation between computations on two states that holds of a sequence when it holds of its
parts. -/
structure Composes {σ' : Type} (Ψ : (α : Type) → Run σ α → Run σ' α → Prop) : Prop where
  pure : ∀ {α : Type} (a : α), Ψ α (Pure.pure a) (Pure.pure a)
  bind : ∀ {α β : Type} {x : Run σ α} {y : Run σ' α} {f : α → Run σ β} {g : α → Run σ' β},
    Ψ α x y → (∀ a, Ψ β (f a) (g a)) → Ψ β (x >>= f) (y >>= g)

/-- A preorder is respected by a sequence when it is respected by its parts. -/
theorem composes_respects (R : σ → σ → Prop) [IsPreorder σ R] :
    Composes fun α (x _ : Run σ α) => Respects R x where
  pure a := respects_pure R a
  bind hx hf := respects_bind hx hf

theorem Composes.map {σ' : Type} {Ψ : (α : Type) → Run σ α → Run σ' α → Prop} (hΨ : Composes Ψ)
    {x : Run σ α} {y : Run σ' α} (h : Ψ α x y) (f : α → β) : Ψ β (f <$> x) (f <$> y) := by
  rw [map_eq_pure_bind, map_eq_pure_bind]
  exact hΨ.bind h fun a => hΨ.pure (f a)

/-- From every state a computation ends with a value. -/
def Completes (body : Run σ α) : Prop :=
  ∀ w, ∃ a w', body.exec w = (.ok a, w')

theorem completes_bind {x : Run σ α} {f : α → Run σ β} (hx : Completes x)
    (hf : ∀ a, Completes (f a)) : Completes (x >>= f) := by
  intro w
  obtain ⟨a, w', hexec⟩ := hx w
  rw [exec_bind, hexec]
  exact hf a w'

theorem composes_completes : Composes fun α (x _ : Run σ α) => Completes x where
  pure a := fun w => ⟨a, w, rfl⟩
  bind hx hf := completes_bind hx hf

/-- A computation that ends with a value takes each state to an `R`-related one, and one that ends
with a fault to one that `E` of the fault relates it to. -/
structure Ends (R : σ → σ → Prop) (E : Fault → σ → σ → Prop) (body : Run σ α) : Prop where
  ok : ∀ {w a w'}, body.exec w = (.ok a, w') → R w w'
  error : ∀ {w e w'}, body.exec w = (.error e, w') → E e w w'

theorem ends_bind {R : σ → σ → Prop} [IsPreorder σ R] {E : Fault → σ → σ → Prop}
    (hE : ∀ e w w' w'', R w w' → E e w' w'' → E e w w'') {x : Run σ α} {f : α → Run σ β}
    (hx : Ends R E x) (hf : ∀ a, Ends R E (f a)) : Ends R E (x >>= f) := by
  constructor
  · intro w b w' h
    obtain ⟨a, w₁, hfirst, hsecond⟩ := exec_bind_eq_ok h
    exact IsTrans.trans _ _ _ (hx.ok hfirst) ((hf a).ok hsecond)
  · intro w e w' h
    -- The fault is one of the first run, or of the second after the first.
    rcases exec_bind_eq_error h with hfirst | ⟨a, w₁, hfirst, hsecond⟩
    · exact hx.error hfirst
    · exact hE _ _ _ _ (hx.ok hfirst) ((hf a).error hsecond)

/-- How sequences end is a matter of how their parts do, if what a fault leads to may begin
earlier. -/
theorem composes_ends {R : σ → σ → Prop} [IsPreorder σ R] {E : Fault → σ → σ → Prop}
    (hE : ∀ e w w' w'', R w w' → E e w' w'' → E e w w'') :
    Composes fun α (x _ : Run σ α) => Ends R E x where
  pure _ := ⟨fun h => by cases h; exact Std.Refl.refl _, nofun⟩
  bind hx hf := ends_bind hE hx hf

end ProofOfExistence.Run
