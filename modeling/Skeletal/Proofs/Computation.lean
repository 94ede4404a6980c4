import Mathlib.Order.Defs.Unbundled

/-!
# Computations with a state

Computations that work on a state and may fail, where what was done before a failure stays done. A
relation that each step keeps between the state before and the state after is kept by the whole
computation (`Moves`), and the whole fails as its steps do (`FailsWith`).
-/

set_option autoImplicit false

namespace Skeletal

variable {ε σ α β : Type}

/-- Result of a computation that starts in a state, and the state it leaves. -/
def runFrom (x : ExceptT ε (StateM σ) α) (s : σ) : Except ε α × σ := x.run.run s

@[simp] theorem runFrom_pure (a : α) (s : σ) :
    runFrom (pure a : ExceptT ε (StateM σ) α) s = (.ok a, s) := rfl

@[simp] theorem runFrom_get (s : σ) :
    runFrom (getThe σ : ExceptT ε (StateM σ) σ) s = (.ok s, s) := rfl

/-- A sequence goes on from the state that its first part leaves, unless that part fails. -/
theorem runFrom_bind (x : ExceptT ε (StateM σ) α) (f : α → ExceptT ε (StateM σ) β) (s : σ) :
    runFrom (x >>= f) s =
      match runFrom x s with
      | (.ok a, s) => runFrom (f a) s
      | (.error e, s) => (.error e, s) := by
  rw [runFrom, ExceptT.run_bind, StateT.run_bind, runFrom]
  rcases x.run.run s with ⟨_ | a, s⟩
  · rfl
  · rfl

theorem runFrom_map (f : α → β) (x : ExceptT ε (StateM σ) α) (s : σ) :
    runFrom (f <$> x) s = ((runFrom x s).1.map f, (runFrom x s).2) := by
  rw [← bind_pure_comp, runFrom_bind]
  rcases runFrom x s with ⟨e | a, s'⟩
  · rfl
  · rfl

theorem runFrom_bind_eq_ok_iff {x : ExceptT ε (StateM σ) α} {f : α → ExceptT ε (StateM σ) β}
    {s s'' : σ} {b : β} :
    runFrom (x >>= f) s = (.ok b, s'') ↔
      ∃ a s', runFrom x s = (.ok a, s') ∧ runFrom (f a) s' = (.ok b, s'') := by
  rw [runFrom_bind]
  rcases runFrom x s with ⟨e | a, s'⟩
  · simp
  · constructor
    · intro h
      exact ⟨a, s', rfl, h⟩
    · rintro ⟨b, s, heq, h⟩
      obtain ⟨hab, rfl⟩ := Prod.mk.inj heq
      cases hab
      exact h

/-- A failure is handled in the state that was reached. -/
theorem runFrom_tryCatch (x : ExceptT ε (StateM σ) α) (handle : ε → ExceptT ε (StateM σ) α)
    (s : σ) :
    runFrom (tryCatch x handle) s =
      match runFrom x s with
      | (.ok a, s) => (.ok a, s)
      | (.error e, s) => runFrom (handle e) s := by
  rw [runFrom, runFrom]
  change (x.run.run s >>= fun p => StateT.run (match p.1 with
    | .ok a => pure (Except.ok a)
    | .error e => (handle e).run) p.2) = _
  rcases x.run.run s with ⟨_ | a, s⟩
  · rfl
  · rfl

/-! ## What a computation does to its state -/

/-- However the computation ends, the state it leaves is related to the one it starts in. -/
def Moves (R : σ → σ → Prop) (x : ExceptT ε (StateM σ) α) : Prop :=
  ∀ s, R s (runFrom x s).2

variable {R S : σ → σ → Prop} {x : ExceptT ε (StateM σ) α} {s s' : σ} {result : Except ε α}

theorem Moves.of_run (h : Moves R x) (hrun : runFrom x s = (result, s')) : R s s' := by
  have hs := h s
  rwa [hrun] at hs

theorem Moves.imp (h : Moves R x) (hRS : ∀ s s', R s s' → S s s') : Moves S x :=
  fun s => hRS _ _ (h s)

section

variable [IsPreorder σ R]

theorem moves_pure (a : α) : Moves R (pure a : ExceptT ε (StateM σ) α) := fun s => refl s

theorem moves_throw (e : ε) : Moves R (throw e : ExceptT ε (StateM σ) α) := fun s => refl s

/-- What follows has to keep the relation for the values that the first part gives. -/
theorem Moves.bind_of_ok {f : α → ExceptT ε (StateM σ) β} (hx : Moves R x)
    (hf : ∀ s a s', runFrom x s = (.ok a, s') → Moves R (f a)) : Moves R (x >>= f) := by
  intro s
  rw [runFrom_bind]
  rcases hrun : runFrom x s with ⟨e | a, s'⟩
  · exact hx.of_run hrun
  · exact IsTrans.trans _ _ _ (hx.of_run hrun) (hf s a s' hrun s')

theorem Moves.bind {f : α → ExceptT ε (StateM σ) β} (hx : Moves R x) (hf : ∀ a, Moves R (f a)) :
    Moves R (x >>= f) :=
  hx.bind_of_ok fun _ a _ _ => hf a

theorem Moves.tryCatch {handle : ε → ExceptT ε (StateM σ) α} (hx : Moves R x)
    (hhandle : ∀ e, Moves R (handle e)) : Moves R (tryCatch x handle) := by
  intro s
  rw [runFrom_tryCatch]
  rcases hrun : runFrom x s with ⟨e | a, s'⟩
  · exact IsTrans.trans _ _ _ (hx.of_run hrun) (hhandle e s')
  · exact hx.of_run hrun

end

/-! ## How a computation fails -/

/-- Wherever the computation starts, what it fails with is of a kind. -/
def FailsWith (P : ε → Prop) (x : ExceptT ε (StateM σ) α) : Prop :=
  ∀ s e s', runFrom x s = (.error e, s') → P e

variable {P : ε → Prop}

theorem failsWith_pure (a : α) : FailsWith P (pure a : ExceptT ε (StateM σ) α) :=
  fun _ _ _ h => nomatch (Prod.mk.inj h).1

theorem failsWith_throw {e : ε} (he : P e) : FailsWith P (throw e : ExceptT ε (StateM σ) α) := by
  intro s e' s' h
  obtain rfl := Except.error.inj (Prod.mk.inj h).1
  exact he

theorem FailsWith.bind {f : α → ExceptT ε (StateM σ) β} (hx : FailsWith P x)
    (hf : ∀ a, FailsWith P (f a)) : FailsWith P (x >>= f) := by
  intro s e s' h
  rw [runFrom_bind] at h
  rcases hrun : runFrom x s with ⟨e' | a, s₁⟩
  · rw [hrun] at h
    obtain rfl := Except.error.inj (Prod.mk.inj h).1
    exact hx s e' s₁ hrun
  · rw [hrun] at h
    exact hf a s₁ e s' h

theorem FailsWith.imp {Q : ε → Prop} (hx : FailsWith P x) (hPQ : ∀ e, P e → Q e) :
    FailsWith Q x :=
  fun s e s' h => hPQ e (hx s e s' h)

/-- A failure that is caught is one of the first part, and counts for what handling it does. -/
theorem FailsWith.tryCatch {Q : ε → Prop} {handle : ε → ExceptT ε (StateM σ) α}
    (hx : FailsWith Q x) (hhandle : ∀ e, Q e → FailsWith P (handle e)) :
    FailsWith P (tryCatch x handle) := by
  intro s e s' h
  rw [runFrom_tryCatch] at h
  rcases hrun : runFrom x s with ⟨e' | a, s₁⟩
  · rw [hrun] at h
    exact hhandle e' (hx s e' s₁ hrun) s₁ e s' h
  · rw [hrun] at h
    cases (Prod.mk.inj h).1

end Skeletal
