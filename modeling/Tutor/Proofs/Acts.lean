import Tutor.World

namespace Tutor.Act

/-!
# Performing operations

What `perform` does to the combinators that operations are built from, and the frame rule that the
other modules use.

* `perform_bind` and its two forms for a first part that is known to succeed or to fail;
* `Keeps view a` — the operation `a` leaves what `view` shows of the world as it is, whether it
  succeeds or fails; `Keeps.bind` carries it through a sequence of operations;
* `Ends view Q a` — what `view` shows before and after the operation `a` is as `Q` says, given how
  `a` ends; `Keeps.bind_ends` skips operations that keep it;
* `Within R a` — `R` relates the world before the operation `a` to the one after it;
* `Agree R a b` — from worlds that `R` relates, the operations `a` and `b` end in the same way and
  leave worlds that `R` relates; `Respects R a` is that the operation agrees with itself;
* `Follows R S E a b` — the same, with results that `S` relates and failures that `E` relates.
-/

variable {α β : Type}

/-! ### Combinators -/

@[simp] theorem perform_pure (x : α) (w : World) : (pure x : Act α).perform w = (.ok x, w) := rfl

@[simp] theorem perform_get (w : World) : (get : Act World).perform w = (.ok w, w) := rfl

@[simp] theorem perform_modify (f : World → World) (w : World) :
    (modify f : Act PUnit).perform w = (.ok (), f w) := rfl

@[simp] theorem perform_log (l : Level) (t : Topic) (m : String) (w : World) :
    (log l t m).perform w = (.ok (), { w with journal := .log l t m :: w.journal }) := rfl

@[simp] theorem perform_ofExcept (r : Except Failure α) (w : World) :
    (ofExcept r).perform w = (r, w) := by
  cases r <;> rfl

@[simp] theorem perform_ofFault (r : Except Fault α) (w : World) :
    (ofFault r).perform w = (r.mapError .fault, w) := by
  cases r <;> rfl

/-- A result that is known, as an operation. -/
theorem perform_ofExcept_eq {r r' : Except Failure α} (h : r = r') (w : World) :
    (ofExcept r).perform w = (r', w) := by
  rw [perform_ofExcept, h]

/-- A result that is known to be fine, as an operation. -/
theorem perform_ofFault_ok {r : Except Fault α} {x : α} (h : r = .ok x) (w : World) :
    (ofFault r).perform w = (.ok x, w) := by
  rw [perform_ofFault, h]
  rfl

/-- A result that is known to be a fault, as an operation. -/
theorem perform_ofFault_error {r : Except Fault α} {f : Fault} (h : r = .error f) (w : World) :
    (ofFault r).perform w = (.error (.fault f), w) := by
  rw [perform_ofFault, h]
  rfl

/-- A sequence stops at the first failure and keeps what was done before it. -/
theorem perform_bind (a : Act α) (f : α → Act β) (w : World) :
    (a >>= f).perform w =
      match a.perform w with
      | (.ok x, w') => (f x).perform w'
      | (.error e, w') => (.error e, w') := by
  show (match a w with
    | (r, w') => (ExceptT.bindCont f r) w') = _
  unfold perform ExceptT.run StateT.run
  cases a w with
  | mk r w' => cases r <;> rfl

/-- After a first part that succeeds, the second part goes on in the world the first one left. -/
theorem perform_bind_ok {a : Act α} {f : α → Act β} {x : α} {w w' : World}
    (h : a.perform w = (.ok x, w')) : (a >>= f).perform w = (f x).perform w' := by
  rw [perform_bind, h]

/-- After a first part that fails, there is no second part. -/
theorem perform_bind_error {a : Act α} {f : α → Act β} {e : Failure} {w w' : World}
    (h : a.perform w = (.error e, w')) : (a >>= f).perform w = (.error e, w') := by
  rw [perform_bind, h]

/-- A result that is there is one of a success. -/
theorem eq_ok_of_toOption {r : Except Failure α} {x : α} (h : r.toOption = some x) :
    r = .ok x := by
  cases r with
  | error e => cases h
  | ok y => rw [Option.some.inj h]

/-- What an operation leaves does not depend on what is made of its result. -/
theorem world_bind_pure (a : Act α) (f : α → β) (w : World) :
    ((a >>= fun x => pure (f x)).perform w).2 = (a.perform w).2 := by
  rw [perform_bind]
  cases a.perform w with
  | mk r w' => cases r <;> rfl

/-- A sequence that succeeds has two parts that succeed. -/
theorem of_perform_bind_ok {a : Act α} {f : α → Act β} {y : β} {w w'' : World}
    (h : (a >>= f).perform w = (.ok y, w'')) :
    ∃ x w', a.perform w = (.ok x, w') ∧ (f x).perform w' = (.ok y, w'') := by
  rw [perform_bind] at h
  cases ha : a.perform w with
  | mk r w' =>
    cases r with
    | error e => rw [ha] at h; cases h
    | ok x => rw [ha] at h; exact ⟨x, w', rfl, h⟩

/-! ### The frame rule -/

/-- The operation leaves what `view` shows of the world as it is, also when it fails. -/
def Keeps {γ : Type} (view : World → γ) (a : Act α) : Prop :=
  ∀ w, view (a.perform w).2 = view w

namespace Keeps

variable {γ : Type} {view : World → γ}

theorem pure (x : α) : Keeps view (Pure.pure x : Act α) := fun _ => rfl

theorem throw (e : Failure) : Keeps view (MonadExcept.throw e : Act α) := fun _ => rfl

theorem get : Keeps view (MonadState.get : Act World) := fun _ => rfl

theorem ofExcept (r : Except Failure α) : Keeps view (Act.ofExcept r) := fun w => by
  rw [perform_ofExcept]

theorem ofFault (r : Except Fault α) : Keeps view (Act.ofFault r) := fun w => by
  rw [perform_ofFault]

theorem refuse (f : Fault) : Keeps view (Act.refuse f : Act α) := fun _ => rfl

/-- A sequence keeps what both of its parts keep. -/
theorem bind {a : Act α} {f : α → Act β} (ha : Keeps view a) (hf : ∀ x, Keeps view (f x)) :
    Keeps view (a >>= f) := by
  intro w
  rw [perform_bind]
  have h := ha w
  cases hr : a.perform w with
  | mk r w' =>
    rw [hr] at h
    cases r with
    | error e => exact h
    | ok x => exact (hf x w').trans h

/-- What is kept is the same in the world that the operation leaves. -/
theorem of_perform {a : Act α} (h : Keeps view a) {r : Except Failure α} {w w' : World}
    (hperform : a.perform w = (r, w')) : view w' = view w := by
  have hw := h w
  rwa [hperform] at hw

/-- What is kept, is kept in part. -/
theorem map {δ : Type} {a : Act α} (h : Keeps view a) (part : γ → δ) :
    Keeps (fun w => part (view w)) a := fun w => congrArg part (h w)

/-- A choice keeps what both of its sides keep. -/
theorem ite {c : Prop} [Decidable c] {a b : Act α} (ha : Keeps view a) (hb : Keeps view b) :
    Keeps view (if c then a else b) := by
  split
  · exact ha
  · exact hb

end Keeps

/-- What `view` shows before and after the operation is as `Q` says, given how the operation ends.
-/
def Ends {γ : Type} (view : World → γ) (Q : γ → Except Failure α → γ → Prop) (a : Act α) : Prop :=
  ∀ w, Q (view w) (a.perform w).1 (view (a.perform w).2)

/-- After a first part that keeps what is shown, the second part decides; if the first part fails,
nothing has changed. -/
theorem Keeps.bind_ends {γ : Type} {view : World → γ} {Q : γ → Except Failure β → γ → Prop}
    {a : Act α} {f : α → Act β} (ha : Keeps view a) (hfail : ∀ v e, Q v (.error e) v)
    (hf : ∀ x, Ends view Q (f x)) : Ends view Q (a >>= f) := by
  intro w
  rw [perform_bind]
  have h := ha w
  cases hr : a.perform w with
  | mk r w' =>
    rw [hr] at h
    cases r with
    | error e =>
      have hview : view w' = view w := h
      rw [hview]
      exact hfail _ e
    | ok x => exact h ▸ hf x w'

/-! ### Operations that stay within a relation -/

/-- The world before the operation is related to the one that it leaves, also when it fails. -/
def Within (R : World → World → Prop) (a : Act α) : Prop :=
  ∀ w, R w (a.perform w).2

/-- Keeping something is staying within the worlds that show the same of it. -/
theorem Keeps.within {γ : Type} {view : World → γ} {R : World → World → Prop} {a : Act α}
    (h : Keeps view a) (hR : ∀ w w', view w' = view w → R w w') : Within R a := fun w => hR _ _ (h w)

/-- A sequence stays within a transitive relation that both of its parts stay within. -/
theorem Within.bind {R : World → World → Prop} {a : Act α} {f : α → Act β} (ha : Within R a)
    (hf : ∀ x, Within R (f x)) (hR : ∀ {w u v}, R w u → R u v → R w v) : Within R (a >>= f) := by
  intro w
  rw [perform_bind]
  have h := ha w
  cases hr : a.perform w with
  | mk r w' =>
    rw [hr] at h
    cases r with
    | error e => exact h
    | ok x => exact hR h (hf x w')

/-! ### Operations that agree -/

/-- From related worlds the two operations end in the same way, and they leave related worlds. -/
def Agree (R : World → World → Prop) (a b : Act α) : Prop :=
  ∀ w u, R w u → (a.perform w).1 = (b.perform u).1 ∧ R (a.perform w).2 (b.perform u).2

namespace Agree

variable {R : World → World → Prop}

theorem pure (x : α) : Agree R (Pure.pure x) (Pure.pure x) := fun _ _ h => ⟨rfl, h⟩

theorem throw (e : Failure) : Agree R (MonadExcept.throw e : Act α) (MonadExcept.throw e) :=
  fun _ _ h => ⟨rfl, h⟩

theorem refuse (f : Fault) : Agree R (Act.refuse f : Act α) (Act.refuse f) :=
  fun _ _ h => ⟨rfl, h⟩

theorem ofExcept (r : Except Failure α) : Agree R (Act.ofExcept r) (Act.ofExcept r) := by
  intro w u h
  rw [perform_ofExcept, perform_ofExcept]
  exact ⟨rfl, h⟩

theorem ofFault (r : Except Fault α) : Agree R (Act.ofFault r) (Act.ofFault r) := by
  intro w u h
  rw [perform_ofFault, perform_ofFault]
  exact ⟨rfl, h⟩

/-- Sequences agree whose parts do. -/
theorem bind {a b : Act α} {f g : α → Act β} (h : Agree R a b) (hf : ∀ x, Agree R (f x) (g x)) :
    Agree R (a >>= f) (b >>= g) := by
  intro w u hR
  obtain ⟨hresult, hworld⟩ := h w u hR
  rw [perform_bind, perform_bind]
  cases ha : a.perform w with
  | mk r w' =>
    cases hb : b.perform u with
    | mk r' u' =>
      rw [ha, hb] at hresult hworld
      cases hresult
      cases r with
      | error e => exact ⟨rfl, hworld⟩
      | ok x => exact hf x w' u' hworld

/-- Choices agree whose sides do. -/
theorem ite {c : Prop} [Decidable c] {a b a' b' : Act α} (h : Agree R a b) (h' : Agree R a' b') :
    Agree R (if c then a else a') (if c then b else b') := by
  split
  · exact h
  · exact h'

end Agree

/-- The operation does the same from worlds that `R` relates. -/
abbrev Respects (R : World → World → Prop) (a : Act α) : Prop :=
  Agree R a a

/-- An operation that looks at the world and goes on respects a relation if what it goes on with
agrees for related worlds. -/
theorem Respects.get_bind {R : World → World → Prop} {f : World → Act α}
    (h : ∀ w u, R w u → Agree R (f w) (f u)) : Respects R (get >>= f) := by
  intro w u hR
  rw [perform_bind_ok (perform_get w), perform_bind_ok (perform_get u)]
  exact h w u hR w u hR

/-- An operation does the same in worlds that are equal once something is erased from them if it
does the same in a world from which that is erased. -/
theorem Respects.of_erase {erase : World → World} {a : Act α}
    (h : ∀ w, (a.perform (erase w)).1 = (a.perform w).1 ∧
      erase (a.perform (erase w)).2 = erase (a.perform w).2) :
    Respects (fun w u => erase w = erase u) a := by
  intro w u hwu
  have hw := h w
  have hu := h u
  rw [show erase w = erase u from hwu] at hw
  exact ⟨hw.1.symm.trans hu.1, hw.2.symm.trans hu.2⟩

/-! ### Operations that follow each other -/

/-- Two results that `S` relates, or two failures that `E` relates. -/
def Paired {α β : Type} (S : α → β → Prop) (E : Failure → Failure → Prop) :
    Except Failure α → Except Failure β → Prop
  | .ok x, .ok y => S x y
  | .error e, .error f => E e f
  | _, _ => False

/-- From related worlds the two operations end in results that `S` relates or in failures that `E`
relates, and they leave related worlds. -/
def Follows {α β : Type} (R : World → World → Prop) (S : α → β → Prop)
    (E : Failure → Failure → Prop) (a : Act α) (b : Act β) : Prop :=
  ∀ w u, R w u → Paired S E (a.perform w).1 (b.perform u).1 ∧ R (a.perform w).2 (b.perform u).2

section Follows

variable {γ δ : Type} {R : World → World → Prop} {S : α → β → Prop} {T : γ → δ → Prop}
  {E : Failure → Failure → Prop}

/-- A result that is related to another one has a result on the other side. -/
theorem Paired.of_ok {r : Except Failure β} {x : α} (h : Paired S E (.ok x) r) :
    ∃ y, r = .ok y ∧ S x y := by
  cases r with
  | error e => exact h.elim
  | ok y => exact ⟨y, rfl, h⟩

/-- A failure that is related to another one has a failure on the other side. -/
theorem Paired.of_error {r : Except Failure β} {e : Failure} (h : Paired S E (.error e) r) :
    ∃ f, r = .error f ∧ E e f := by
  cases r with
  | error f => exact ⟨f, rfl, h⟩
  | ok y => exact h.elim

/-- Operations that agree follow each other. -/
theorem Agree.follows {a b : Act α} (h : Agree R a b) (hE : ∀ e, E e e) :
    Follows R Eq E a b := by
  intro w u hR
  obtain ⟨hresult, hworld⟩ := h w u hR
  refine ⟨?_, hworld⟩
  rw [← hresult]
  cases (a.perform w).1 with
  | error e => exact hE e
  | ok x => exact rfl

/-- Operations that follow each other with the same results and the same failures agree. -/
theorem Follows.agree {a b : Act α} (h : Follows R Eq Eq a b) : Agree R a b := by
  intro w u hR
  obtain ⟨hresult, hworld⟩ := h w u hR
  refine ⟨?_, hworld⟩
  cases hr : (a.perform w).1 with
  | error e =>
    rw [hr] at hresult
    obtain ⟨f, hf, rfl⟩ := hresult.of_error
    exact hf.symm
  | ok x =>
    rw [hr] at hresult
    obtain ⟨y, hy, rfl⟩ := hresult.of_ok
    exact hy.symm

namespace Follows

theorem pure {x : α} {y : β} (h : S x y) : Follows R S E (Pure.pure x) (Pure.pure y) :=
  fun _ _ hR => ⟨h, hR⟩

theorem refuse {f f' : Fault} (h : E (.fault f) (.fault f')) :
    Follows R S E (Act.refuse f : Act α) (Act.refuse f' : Act β) :=
  fun _ _ hR => ⟨h, hR⟩

/-- Sequences follow each other whose first parts do and whose second parts do for results that the
first parts may have. -/
theorem bind {a : Act α} {b : Act β} {f : α → Act γ} {g : β → Act δ} (h : Follows R S E a b)
    (hf : ∀ x y, S x y → Follows R T E (f x) (g y)) : Follows R T E (a >>= f) (b >>= g) := by
  intro w u hR
  obtain ⟨hresult, hworld⟩ := h w u hR
  rw [perform_bind, perform_bind]
  cases ha : a.perform w with
  | mk r w' =>
    cases hb : b.perform u with
    | mk r' u' =>
      rw [ha, hb] at hresult hworld
      cases r with
      | error e =>
        obtain ⟨e', rfl, he⟩ := hresult.of_error
        exact ⟨he, hworld⟩
      | ok x =>
        obtain ⟨y, rfl, hxy⟩ := hresult.of_ok
        exact hf x y hxy w' u' hworld

/-- Something is made of the result of the first operation alone. -/
theorem map_left {f : α → γ} {a : Act α} {b : Act β} {S' : γ → β → Prop} (h : Follows R S E a b)
    (hf : ∀ x y, S x y → S' (f x) y) :
    Follows R S' E (a >>= fun x => Pure.pure (f x)) b := by
  have hboth := h.bind fun x y hxy => pure (hf x y hxy)
  rwa [bind_pure] at hboth

/-- Operations that follow each other do so with any more that is true of their results. -/
theorem mono {S' : α → β → Prop} {a : Act α} {b : Act β} (h : Follows R S E a b)
    (hS : ∀ x y, S x y → S' x y) : Follows R S' E a b := by
  intro w u hR
  obtain ⟨hresult, hworld⟩ := h w u hR
  refine ⟨?_, hworld⟩
  cases hr : (a.perform w).1 with
  | error e =>
    rw [hr] at hresult
    obtain ⟨f, hf, he⟩ := hresult.of_error
    rw [hf]
    exact he
  | ok x =>
    rw [hr] at hresult
    obtain ⟨y, hy, hxy⟩ := hresult.of_ok
    rw [hy]
    exact hS x y hxy

/-- Choices follow each other whose sides do. -/
theorem ite {c : Prop} [Decidable c] {a a' : Act α} {b b' : Act β} (h : Follows R S E a b)
    (h' : Follows R S E a' b') : Follows R S E (if c then a else a') (if c then b else b') := by
  split
  · exact h
  · exact h'

end Follows

end Follows

end Tutor.Act
