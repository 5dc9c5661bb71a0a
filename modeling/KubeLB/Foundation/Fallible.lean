import Mathlib.Data.List.Forall2
import Mathlib.Tactic

/-!
Computations that may fail, with and without a state: how a result of a
sequence or of a loop comes from the results of its parts.
-/

namespace Fallible
variable {ε σ α β γ : Type}

theorem bind_eq_ok {x : Except ε α} {f : α → Except ε β} {b : β} :
    x >>= f = .ok b ↔ ∃ a, x = .ok a ∧ f a = .ok b := by
  cases x with
  | error err => exact ⟨fun h => (by cases h), fun ⟨_, h, _⟩ => (by cases h)⟩
  | ok a => exact ⟨fun h => ⟨a, rfl, h⟩, fun ⟨_, h, g⟩ => (by cases h; exact g)⟩

theorem stateT_bind_eq_ok {x : StateT σ (Except ε) α} {f : α → StateT σ (Except ε) β}
    {s : σ} {result : β × σ} :
    (x >>= f) s = .ok result ↔ ∃ a s', x s = .ok (a, s') ∧ f a s' = .ok result := by
  change (x s >>= fun pair => f pair.1 pair.2) = .ok result ↔ _
  rw [bind_eq_ok]
  exact ⟨fun ⟨⟨a, s'⟩, h⟩ => ⟨a, s', h⟩, fun ⟨a, s', h⟩ => ⟨(a, s'), h⟩⟩

/-- What holds of every call of a loop holds of the inputs and the outputs of the
loop, place by place. -/
theorem forall₂_of_mapM {f : α → StateT σ (Except ε) β} {R : α → β → Prop}
    (each : ∀ a s b s', f a s = .ok (b, s') → R a b) {as : List α} {bs : List β} {s s' : σ}
    (returned : as.mapM f s = .ok (bs, s')) : List.Forall₂ R as bs := by
  induction as generalizing bs s with
  | nil =>
      cases returned
      exact .nil
  | cons a as ih =>
      rw [List.mapM_cons] at returned
      obtain ⟨b, s₁, first, returned⟩ := stateT_bind_eq_ok.mp returned
      obtain ⟨rest, s₂, later, returned⟩ := stateT_bind_eq_ok.mp returned
      cases returned
      exact .cons (each a s b s₁ first) (ih later)

/-- A loop that keeps a state does what a loop without one does, if each of its calls
does from states with `I` and keeps it. -/
theorem mapM_eq_map_mapM {f : α → StateT σ (Except ε) β} {g : α → Except ε β} {I : σ → Prop}
    {as : List α}
    (each : ∀ a ∈ as, ∀ s, I s → ∃ s', f a s = (g a).map (fun b => (b, s')) ∧ I s')
    {s : σ} (start : I s) :
    ∃ s', as.mapM f s = (as.mapM g).map (fun bs => (bs, s')) ∧ I s' := by
  induction as generalizing s with
  | nil => exact ⟨s, rfl, start⟩
  | cons a as ih =>
      obtain ⟨s₁, first, kept⟩ := each a List.mem_cons_self s start
      obtain ⟨s₂, later, kept⟩ := ih (fun a member => each a (List.mem_cons_of_mem _ member)) kept
      refine ⟨s₂, ?_, kept⟩
      rw [List.mapM_cons, List.mapM_cons]
      change (f a s >>= fun pair => (as.mapM f >>= fun bs => pure (pair.1 :: bs)) pair.2) = _
      rw [first]
      cases g a with
      | error err => rfl
      | ok b =>
          change (as.mapM f s₁ >>= fun pair => pure (b :: pair.1, pair.2)) = _
          rw [later]
          cases as.mapM g with
          | error err => rfl
          | ok bs => rfl

theorem mapM_congr {m : Type → Type} [Monad m] [LawfulMonad m] {f g : α → m β} {as : List α}
    (same : ∀ a ∈ as, f a = g a) : as.mapM f = as.mapM g := by
  induction as with
  | nil => rfl
  | cons a as ih =>
      obtain ⟨first, rest⟩ := List.forall_mem_cons.mp same
      rw [List.mapM_cons, List.mapM_cons, first, ih rest]

theorem mapM_congr_after {f g : α → StateT σ (Except ε) β} {I : List α → σ → Prop}
    {done as : List α} {s : σ} (start : I done s)
    (each : ∀ before a after s, done ++ as = before ++ a :: after → I before s →
      f a s = g a s ∧ ∀ b s', f a s = .ok (b, s') → I (before ++ [a]) s') :
    as.mapM f s = as.mapM g s ∧ ∀ bs s', as.mapM f s = .ok (bs, s') → I (done ++ as) s' := by
  induction as generalizing done s with
  | nil =>
      refine ⟨rfl, fun bs s' returned => ?_⟩
      cases returned
      rw [List.append_nil]
      exact start
  | cons a as ih =>
      obtain ⟨same, keeps⟩ := each done a as s rfl start
      have split : done ++ a :: as = done ++ [a] ++ as := by simp
      rw [List.mapM_cons, List.mapM_cons]
      change (f a s >>= fun pair => (as.mapM f >>= fun bs => pure (pair.1 :: bs)) pair.2) =
          (g a s >>= fun pair => (as.mapM g >>= fun bs => pure (pair.1 :: bs)) pair.2) ∧
        ∀ bs s', (f a s >>= fun pair => (as.mapM f >>= fun bs => pure (pair.1 :: bs)) pair.2) =
          .ok (bs, s') → I (done ++ a :: as) s'
      rw [← same]
      cases first : f a s with
      | error err => exact ⟨rfl, fun _ _ returned => by cases returned⟩
      | ok result =>
          obtain ⟨b, s₁⟩ := result
          obtain ⟨later, kept⟩ := ih (keeps b s₁ first) (split ▸ each)
          refine ⟨?_, fun bs s' returned => ?_⟩
          · change (as.mapM f s₁ >>= fun pair => pure (b :: pair.1, pair.2)) =
              (as.mapM g s₁ >>= fun pair => pure (b :: pair.1, pair.2))
            rw [later]
          · change (as.mapM f >>= fun bs => pure (b :: bs)) s₁ = .ok (bs, s') at returned
            obtain ⟨rest, s₂, loop, returned⟩ := stateT_bind_eq_ok.mp returned
            cases returned
            exact split ▸ kept rest _ loop

/-- Two loops with a state do the same, if their bodies do from every state that the
elements before may leave. -/
theorem mapM_congr_from {f g : α → StateT σ (Except ε) β} {I : List α → σ → Prop}
    {as : List α} {s : σ} (start : I [] s)
    (each : ∀ before a after s, as = before ++ a :: after → I before s →
      f a s = g a s ∧ ∀ b s', f a s = .ok (b, s') → I (before ++ [a]) s') :
    as.mapM f s = as.mapM g s ∧ ∀ bs s', as.mapM f s = .ok (bs, s') → I as s' :=
  mapM_congr_after start each

/-- A change of the elements that the body carries over to its results. -/
theorem mapM_map_comm {m : Type → Type} [Monad m] [LawfulMonad m] {f : α → m β} {g : α → α}
    {h : β → β} (comm : ∀ a, f (g a) = h <$> f a) (as : List α) :
    (as.map g).mapM f = List.map h <$> as.mapM f := by
  induction as with
  | nil => simp
  | cons a as ih =>
      rw [List.map_cons, List.mapM_cons, List.mapM_cons, comm, ih]
      simp only [bind_map_left, map_bind, map_pure, List.map_cons]

theorem mapM_eq_ok {g : α → Except ε β} {h : α → β} {as : List α}
    (each : ∀ a ∈ as, g a = .ok (h a)) : as.mapM g = .ok (as.map h) := by
  induction as with
  | nil => rfl
  | cons a as ih =>
      rw [List.mapM_cons, each a List.mem_cons_self,
        ih fun a member => each a (List.mem_cons_of_mem _ member)]
      rfl

theorem exists_of_mapM_eq_ok {g : α → Except ε β} {as : List α} {bs : List β}
    (returned : as.mapM g = .ok bs) {a : α} (member : a ∈ as) : ∃ b, g a = .ok b := by
  induction as generalizing bs with
  | nil => cases member
  | cons head as ih =>
      rw [List.mapM_cons] at returned
      obtain ⟨b, first, returned⟩ := bind_eq_ok.mp returned
      obtain ⟨rest, later, _⟩ := bind_eq_ok.mp returned
      obtain rfl | tail := List.mem_cons.mp member
      · exact ⟨b, first⟩
      · exact ih later tail

/-- A loop whose state only grows: what holds of a call and the state it leaves, and
still holds when the state has grown, holds of every call at the end of the loop. -/
theorem forall₂_of_growing {f : α → StateT σ (Except ε) β} {L : σ → σ → Prop}
    {R : σ → α → β → Prop} (refl : ∀ s, L s s)
    (trans : ∀ {s s' s''}, L s s' → L s' s'' → L s s'')
    (mono : ∀ {s s' a b}, L s s' → R s a b → R s' a b)
    (each : ∀ a s b s', f a s = .ok (b, s') → L s s' ∧ R s' a b)
    {as : List α} {bs : List β} {s s' : σ} (returned : as.mapM f s = .ok (bs, s')) :
    L s s' ∧ List.Forall₂ (R s') as bs := by
  induction as generalizing bs s with
  | nil =>
      cases returned
      exact ⟨refl s', .nil⟩
  | cons a as ih =>
      rw [List.mapM_cons] at returned
      obtain ⟨b, s₁, first, returned⟩ := stateT_bind_eq_ok.mp returned
      obtain ⟨rest, s₂, later, returned⟩ := stateT_bind_eq_ok.mp returned
      cases returned
      obtain ⟨grown, holds⟩ := each a s b s₁ first
      obtain ⟨grows, holdsLater⟩ := ih later
      exact ⟨trans grown grows, .cons (mono grows holds) holdsLater⟩

theorem mapM_eq_some_iff {f : α → Option β} {as : List α} {bs : List β} :
    as.mapM f = some bs ↔ List.Forall₂ (fun a b => f a = some b) as bs := by
  induction as generalizing bs with
  | nil => simp [eq_comm]
  | cons a as ih =>
      rw [List.mapM_cons]
      constructor
      · intro returned
        obtain ⟨b, first, returned⟩ := Option.bind_eq_some_iff.mp returned
        obtain ⟨rest, later, returned⟩ := Option.bind_eq_some_iff.mp returned
        cases returned
        exact .cons first (ih.mp later)
      · rintro (_ | ⟨first, later⟩)
        rw [first, ih.mpr later]
        rfl

theorem getElem?_of_mapM {f : α → Option β} {as : List α} {bs : List β}
    (returned : as.mapM f = some bs) (k : Nat) : bs[k]? = (as[k]?).bind f := by
  have each := mapM_eq_some_iff.mp returned
  clear returned
  induction each generalizing k with
  | nil => rfl
  | cons head tail ih =>
      cases k with
      | zero => exact head.symm
      | succ k => exact ih k

theorem mapM_isSome_iff {f : α → Option β} {as : List α} :
    (as.mapM f).isSome ↔ ∀ a ∈ as, (f a).isSome := by
  induction as with
  | nil => simp
  | cons a as ih =>
      rw [List.mapM_cons, List.forall_mem_cons, ← ih]
      cases f a with
      | none => simp
      | some b =>
          cases as.mapM f with
          | none => simp
          | some bs => simp

/-- When no call of the loop fails, leaving the failures out changes nothing. -/
theorem filterMap_of_forall₂ {f : α → Option β} {as : List α} {bs : List β}
    (each : List.Forall₂ (fun a b => f a = some b) as bs) : as.filterMap f = bs := by
  induction each with
  | nil => rfl
  | cons first later ih => rw [List.filterMap_cons_some first, ih]

/-- A loop that leaves failures out gives a result for every element exactly when no
call fails. -/
theorem filterMap_eq_map_iff {f : α → Option β} {g : α → β} {as : List α} :
    as.filterMap f = as.map g ↔ ∀ a ∈ as, f a = some (g a) := by
  induction as with
  | nil => simp
  | cons a as ih =>
      rw [List.forall_mem_cons, List.map_cons]
      cases first : f a with
      | none =>
          rw [List.filterMap_cons_none first]
          refine iff_of_false (fun same => ?_) (by rintro ⟨⟨⟩, _⟩)
          have lengths := congrArg List.length same
          have short := List.length_filterMap_le f as
          rw [List.length_cons, List.length_map] at lengths
          omega
      | some b => rw [List.filterMap_cons_some first, List.cons.injEq, Option.some.injEq, ih]

/-- What a loop says of its inputs it says of the results that it does not leave out. -/
theorem map_filterMap_sublist {f : α → Option β} {g : β → γ} {h : α → γ}
    (same : ∀ a b, f a = some b → g b = h a) (as : List α) :
    ((as.filterMap f).map g).Sublist (as.map h) := by
  induction as with
  | nil => exact .slnil
  | cons a as ih =>
      cases first : f a with
      | none =>
          rw [List.filterMap_cons_none first]
          exact ih.cons _
      | some b =>
          rw [List.filterMap_cons_some first, List.map_cons, List.map_cons, same a b first]
          exact ih.cons_cons _

theorem flatMap_eq_flatten_of_forall₂ {f : α → List β} {as : List α} {bss : List (List β)}
    (each : List.Forall₂ (fun a bs => f a = bs) as bss) : as.flatMap f = bss.flatten := by
  induction each with
  | nil => rfl
  | cons first later ih => rw [List.flatMap_cons, List.flatten_cons, first, ih]

theorem flatMap_congr_forall₂ {as : List α} {bs : List β} {f : α → List γ} {g : β → List γ}
    (same : List.Forall₂ (fun a b => g b = f a) as bs) : bs.flatMap g = as.flatMap f := by
  induction same with
  | nil => rfl
  | cons head tail ih => rw [List.flatMap_cons, List.flatMap_cons, head, ih]

theorem exists_of_forall₂ {R : α → β → Prop} {as : List α} {bs : List β}
    (related : List.Forall₂ R as bs) {b : β} (member : b ∈ bs) : ∃ a ∈ as, R a b := by
  induction related with
  | nil => cases member
  | cons head tail ih =>
      obtain rfl | later := List.mem_cons.mp member
      · exact ⟨_, List.mem_cons_self, head⟩
      · obtain ⟨a, inRest, holds⟩ := ih later
        exact ⟨a, List.mem_cons_of_mem _ inRest, holds⟩

theorem forall₂_and {R S : α → β → Prop} {as : List α} {bs : List β} (first : List.Forall₂ R as bs)
    (second : List.Forall₂ S as bs) : List.Forall₂ (fun a b => R a b ∧ S a b) as bs := by
  induction first with
  | nil => exact .nil
  | cons head tail ih =>
      cases second with
      | cons head' tail' => exact .cons ⟨head, head'⟩ (ih tail')

theorem forall_getElem?_cons {P : Nat → α → Prop} {a : α} {as : List α} :
    (∀ k b, (a :: as)[k]? = some b → P k b) ↔
      P 0 a ∧ ∀ k b, as[k]? = some b → P (k + 1) b := by
  constructor
  · exact fun all => ⟨all 0 a rfl, fun k b found => all (k + 1) b found⟩
  · rintro ⟨first, later⟩ k b found
    cases k with
    | zero =>
        cases found
        exact first
    | succ k => exact later k b found

/-- A second relation, if on related elements it only depends on the first of them. -/
theorem forall₂_iff_of_forall₂ {R S : α → β → Prop} {P : α → Prop} {as : List α} {bs : List β}
    (related : List.Forall₂ R as bs) (same : ∀ a b, R a b → (S a b ↔ P a)) :
    List.Forall₂ S as bs ↔ ∀ a ∈ as, P a := by
  induction related with
  | nil => simp
  | cons head tail ih =>
      rw [List.forall₂_cons, List.forall_mem_cons, same _ _ head, ih]

/-- Two lists related place by place have the same image, if related elements do. -/
theorem map_eq_map_of_forall₂ {R : α → β → Prop} {f : α → γ} {g : β → γ} {as : List α}
    {bs : List β} (related : List.Forall₂ R as bs) (same : ∀ a ∈ as, ∀ b, R a b → f a = g b) :
    as.map f = bs.map g := by
  induction related with
  | nil => rfl
  | cons head tail ih =>
      rw [List.map_cons, List.map_cons, same _ List.mem_cons_self _ head,
        ih fun a later => same a (List.mem_cons_of_mem _ later)]

end Fallible
