import Mathlib.Data.Finmap
import Mathlib.Data.Finset.Card
import Mathlib.Tactic

/-!
Finite maps with one value type, as Go's built-in maps: no order, one value
for each key. The carrier is Mathlib's `Finmap`; what is added here is the
restriction to a set of keys, the values with their multiplicity, and the
reading of a map of maps as one map of pairs.
-/

abbrev FiniteMap (α β : Type) := Finmap fun _ : α => β

namespace FiniteMap
variable {α β γ : Type}

/-- The map restricted to the keys that satisfy `p`. -/
def filterKeys (p : α → Prop) [DecidablePred p] (m : FiniteMap α β) : FiniteMap α β where
  entries := m.entries.filter fun entry => p entry.1
  nodupKeys := by
    apply Multiset.nodup_keys.mp
    apply Multiset.nodup_of_le _ (Multiset.nodup_keys.mpr m.nodupKeys)
    exact Multiset.map_le_map (Multiset.filter_le _ _)

theorem lookup_filterKeys [DecidableEq α] (p : α → Prop) [DecidablePred p]
    (m : FiniteMap α β) (a : α) :
    (filterKeys p m).lookup a = if p a then m.lookup a else none := by
  ext b
  rw [← Option.mem_def, Finmap.mem_lookup_iff]
  by_cases h : p a
  · simp only [filterKeys, Multiset.mem_filter, h, and_true, ite_true]
    exact Finmap.mem_lookup_iff.symm
  · simp [filterKeys, h]

/-- Inserting the pairs of a list from the left: later pairs win. -/
def insertAll [DecidableEq α] (m : FiniteMap α β) (pairs : List (α × β)) : FiniteMap α β :=
  pairs.foldl (fun m pair => m.insert pair.1 pair.2) m

theorem lookup_insertAll_of_notMem [DecidableEq α] (m : FiniteMap α β)
    (pairs : List (α × β)) (a : α) (h : a ∉ pairs.map Prod.fst) :
    (insertAll m pairs).lookup a = m.lookup a := by
  induction pairs generalizing m with
  | nil => rfl
  | cons pair rest ih =>
      simp only [List.map_cons, List.mem_cons, not_or] at h
      change (insertAll (m.insert pair.1 pair.2) rest).lookup a = m.lookup a
      rw [ih _ h.2, Finmap.lookup_insert_of_ne _ h.1]

theorem lookup_insertAll_of_mem [DecidableEq α] (m : FiniteMap α β)
    (pairs : List (α × β)) (nodup : (pairs.map Prod.fst).Nodup) (a : α) (b : β)
    (h : (a, b) ∈ pairs) : (insertAll m pairs).lookup a = some b := by
  induction pairs generalizing m with
  | nil => cases h
  | cons pair rest ih =>
      simp only [List.map_cons, List.nodup_cons] at nodup
      change (insertAll (m.insert pair.1 pair.2) rest).lookup a = some b
      cases List.mem_cons.mp h with
      | inl head =>
          subst head
          rw [lookup_insertAll_of_notMem _ _ _ nodup.1, Finmap.lookup_insert]
      | inr tail => exact ih _ nodup.2 tail

theorem mem_insertAll [DecidableEq α] {m : FiniteMap α β} {pairs : List (α × β)} {a : α} :
    a ∈ insertAll m pairs ↔ a ∈ m ∨ a ∈ pairs.map Prod.fst := by
  induction pairs generalizing m with
  | nil => exact (or_iff_left List.not_mem_nil).symm
  | cons pair rest ih =>
      change a ∈ insertAll (m.insert pair.1 pair.2) rest ↔ _
      rw [ih, Finmap.mem_insert, List.map_cons, List.mem_cons, or_assoc, or_left_comm]

/-- A value after the insertions is an old one or one of the pairs. -/
theorem lookup_insertAll [DecidableEq α] {m : FiniteMap α β} {pairs : List (α × β)} {a : α}
    {b : β} (found : (insertAll m pairs).lookup a = some b) :
    m.lookup a = some b ∨ (a, b) ∈ pairs := by
  induction pairs generalizing m with
  | nil => exact Or.inl found
  | cons pair rest ih =>
      obtain before | member := ih found
      · by_cases same : a = pair.1
        · subst same
          rw [Finmap.lookup_insert] at before
          cases before
          exact Or.inr List.mem_cons_self
        · rw [Finmap.lookup_insert_of_ne _ same] at before
          exact Or.inl before
      · exact Or.inr (List.mem_cons_of_mem _ member)

theorem lookup_insertAll_filterMap {ι : Type} [DecidableEq α] (key : ι → α)
    (value : ι → Option β) {items : List ι} (nodup : (items.map key).Nodup) {i : ι}
    (member : i ∈ items) (m : FiniteMap α β) :
    (insertAll m (items.filterMap fun i => (value i).map fun b => (key i, b))).lookup (key i) =
      (value i <|> m.lookup (key i)) := by
  induction items generalizing m with
  | nil => cases member
  | cons j rest ih =>
      simp only [List.map_cons, List.nodup_cons] at nodup
      cases List.mem_cons.mp member with
      | inl head =>
          subst head
          have absent : key i ∉ (rest.filterMap fun i =>
              (value i).map fun b => (key i, b)).map Prod.fst := by
            simp only [List.mem_map, List.mem_filterMap, Option.map_eq_some_iff, not_exists,
              not_and]
            rintro _ ⟨j, inRest, b, _, rfl⟩ same
            exact nodup.1 (List.mem_map.mpr ⟨j, inRest, same⟩)
          cases here : value i with
          | none => simp [here, lookup_insertAll_of_notMem _ _ _ absent]
          | some b =>
              simp only [List.filterMap_cons, here, Option.map_some]
              exact (lookup_insertAll_of_notMem _ _ _ absent).trans (Finmap.lookup_insert _)
      | inr tail =>
          have other : key i ≠ key j := by
            intro same
            exact nodup.1 (List.mem_map.mpr ⟨i, tail, same⟩)
          cases here : value j with
          | none =>
              simp only [List.filterMap_cons, here, Option.map_none]
              exact ih nodup.2 tail m
          | some b =>
              simp only [List.filterMap_cons, here, Option.map_some]
              refine (ih nodup.2 tail (m.insert (key j) b)).trans ?_
              rw [Finmap.lookup_insert_of_ne _ other]

/-- The last item of a list with the given key: the one whose value stands after
a loop that writes at the key of each item. -/
def lastWith {ι : Type} [DecidableEq α] (key : ι → α) : List ι → α → Option ι
  | [], _ => none
  | i :: items, a => (lastWith key items a).or (if key i = a then some i else none)

theorem lastWith_eq_some {ι : Type} [DecidableEq α] {key : ι → α} {items : List ι} {a : α}
    {i : ι} (found : lastWith key items a = some i) : i ∈ items ∧ key i = a := by
  induction items with
  | nil => cases found
  | cons j items ih =>
      rw [lastWith] at found
      cases later : lastWith key items a with
      | some j' =>
          rw [later] at found
          cases found
          exact ⟨List.mem_cons_of_mem _ (ih later).1, (ih later).2⟩
      | none =>
          rw [later, Option.none_or] at found
          obtain ⟨same, ⟨⟩⟩ := Option.ite_none_right_eq_some.mp found
          exact ⟨List.mem_cons_self, same⟩

theorem lastWith_isSome {ι : Type} [DecidableEq α] (key : ι → α) {items : List ι} {i : ι}
    (member : i ∈ items) : ∃ j, lastWith key items (key i) = some j := by
  induction items with
  | nil => cases member
  | cons j items ih =>
      rw [lastWith]
      cases List.mem_cons.mp member with
      | inl head =>
          subst head
          cases lastWith key items (key i) with
          | none => exact ⟨i, by simp⟩
          | some later => exact ⟨later, rfl⟩
      | inr tail =>
          obtain ⟨later, found⟩ := ih tail
          exact ⟨later, by rw [found]; rfl⟩

theorem lastWith_of_unique {ι : Type} [DecidableEq α] {key : ι → α} {items : List ι} {i : ι}
    (member : i ∈ items) (only : ∀ j ∈ items, key j = key i → j = i) :
    lastWith key items (key i) = some i := by
  obtain ⟨j, found⟩ := lastWith_isSome key member
  obtain ⟨inItems, same⟩ := lastWith_eq_some found
  rw [found, only j inItems same]

theorem lastWith_append {ι : Type} [DecidableEq α] (key : ι → α) (first second : List ι) (a : α) :
    lastWith key (first ++ second) a = (lastWith key second a).or (lastWith key first a) := by
  induction first with
  | nil => simp [lastWith]
  | cons i first ih => rw [List.cons_append, lastWith, ih, lastWith, Option.or_assoc]

theorem lastWith_map {ι κ : Type} [DecidableEq α] (key : κ → α) (f : ι → κ) (items : List ι)
    (a : α) : lastWith key (items.map f) a = (lastWith (fun i => key (f i)) items a).map f := by
  induction items with
  | nil => rfl
  | cons i items ih =>
      rw [List.map_cons, lastWith, lastWith, ih]
      cases lastWith (fun i => key (f i)) items a with
      | some later => rfl
      | none => by_cases same : key (f i) = a <;> simp [same]

/-- What stands after the insertions: the last pair at the key, else the old value. -/
theorem lookup_insertAll_eq [DecidableEq α] (m : FiniteMap α β) (pairs : List (α × β)) (a : α) :
    (insertAll m pairs).lookup a = ((lastWith Prod.fst pairs a).map Prod.snd).or (m.lookup a) := by
  induction pairs generalizing m with
  | nil => rfl
  | cons pair pairs ih =>
      change (insertAll (m.insert pair.1 pair.2) pairs).lookup a = _
      rw [ih, lastWith]
      cases lastWith Prod.fst pairs a with
      | some later => rfl
      | none =>
          by_cases same : pair.1 = a
          · subst same
            simp [Finmap.lookup_insert]
          · simp [same, Finmap.lookup_insert_of_ne _ (Ne.symm same)]

/-- The items by their key, the last one of a key staying. -/
def indexBy {ι : Type} [DecidableEq α] (key : ι → α) (items : List ι) : FiniteMap α ι :=
  insertAll ∅ (items.map fun i => (key i, i))

theorem lookup_indexBy {ι : Type} [DecidableEq α] (key : ι → α) (items : List ι) (a : α) :
    (indexBy key items).lookup a = lastWith key items a := by
  rw [indexBy, lookup_insertAll_eq, lastWith_map]
  simp [Function.comp_def]

theorem keys_indexBy {ι : Type} [DecidableEq α] (key : ι → α) (items : List ι) :
    (indexBy key items).keys = (items.map key).toFinset := by
  ext a
  rw [Finmap.mem_keys, ← Finmap.lookup_isSome, lookup_indexBy, List.mem_toFinset, List.mem_map,
    Option.isSome_iff_exists]
  constructor
  · rintro ⟨i, found⟩
    exact ⟨i, lastWith_eq_some found⟩
  · rintro ⟨i, member, rfl⟩
    exact lastWith_isSome key member

theorem card_indexBy_iff {ι : Type} [DecidableEq α] (key : ι → α) (items : List ι) :
    (indexBy key items).keys.card = items.length ↔ (items.map key).Nodup := by
  have size : items.length = (items.map key).length := by rw [List.length_map]
  rw [keys_indexBy, size]
  exact Multiset.toFinset_card_eq_card_iff_nodup

/-- The keys of the map in some order, as ranging over it meets them. -/
def Enumerates (order : List α) (m : FiniteMap α β) : Prop :=
  order.Nodup ∧ ∀ a, a ∈ order ↔ a ∈ m

theorem enumerates_iff [DecidableEq α] {order : List α} {m : FiniteMap α β} :
    Enumerates order m ↔ order.Nodup ∧ order.toFinset = m.keys := by
  simp [Enumerates, Finset.ext_iff, Finmap.mem_keys]

instance [DecidableEq α] (order : List α) (m : FiniteMap α β) : Decidable (Enumerates order m) :=
  decidable_of_iff _ enumerates_iff.symm

theorem exists_enumerates_cons {m : FiniteMap α β} {a : α} (member : a ∈ m) :
    ∃ order, Enumerates (a :: order) m := by
  classical
  refine ⟨(m.keys.erase a).toList, ?_, ?_⟩
  · simp [Finset.nodup_toList]
  · intro b
    by_cases same : b = a
    · simp [same, member]
    · simp [same, Finmap.mem_keys]

theorem ne_empty_iff [DecidableEq α] {m : FiniteMap α β} : m ≠ ∅ ↔ ∃ a, a ∈ m := by
  rw [← not_iff_not, not_not, not_exists]
  refine ⟨fun empty a => empty ▸ Finmap.notMem_empty, fun absent => ?_⟩
  refine Finmap.ext_lookup fun a => ?_
  rw [Finmap.lookup_eq_none.mpr (absent a), Finmap.lookup_empty]

theorem erase_eq_erase_iff [DecidableEq α] {a b : FiniteMap α β} {key : α} :
    a.erase key = b.erase key ↔ ∀ other ≠ key, a.lookup other = b.lookup other := by
  constructor
  · intro same other differs
    rw [← Finmap.lookup_erase_ne differs, same, Finmap.lookup_erase_ne differs]
  · intro same
    refine Finmap.ext_lookup fun other => ?_
    by_cases here : other = key
    · rw [here, Finmap.lookup_erase, Finmap.lookup_erase]
    · rw [Finmap.lookup_erase_ne here, Finmap.lookup_erase_ne here, same other here]

theorem lookup_of_lookup_erase [DecidableEq α] {m : FiniteMap α β} {a a' : α} {b : β}
    (found : (m.erase a).lookup a' = some b) : m.lookup a' = some b := by
  by_cases same : a' = a
  · subst same
    cases (Finmap.lookup_erase _ _).symm.trans found
  · exact (Finmap.lookup_erase_ne same).symm.trans found

theorem lookup_of_lookup_insert [DecidableEq α] {m : FiniteMap α β} {a a' : α} {b b' : β}
    (found : (m.insert a b).lookup a' = some b') :
    (a' = a ∧ b' = b) ∨ (a' ≠ a ∧ m.lookup a' = some b') := by
  by_cases same : a' = a
  · subst same
    cases (Finmap.lookup_insert _).symm.trans found
    exact Or.inl ⟨rfl, rfl⟩
  · exact Or.inr ⟨same, (Finmap.lookup_insert_of_ne _ same).symm.trans found⟩

theorem lookup_union [DecidableEq α] (m m' : FiniteMap α β) (a : α) :
    (m ∪ m').lookup a = (m.lookup a).or (m'.lookup a) := by
  by_cases present : a ∈ m
  · obtain ⟨b, found⟩ := Option.isSome_iff_exists.mp (Finmap.lookup_isSome.mpr present)
    rw [Finmap.lookup_union_left present, found, Option.some_or]
  · rw [Finmap.lookup_union_right present, Finmap.lookup_eq_none.mpr present, Option.none_or]

/-- The entry of a key replaced, or with `none` removed. -/
def assign [DecidableEq α] (m : FiniteMap α β) (a : α) : Option β → FiniteMap α β
  | none => m.erase a
  | some b => m.insert a b

theorem lookup_assign [DecidableEq α] (m : FiniteMap α β) (a : α) (b : Option β) (a' : α) :
    (assign m a b).lookup a' = if a' = a then b else m.lookup a' := by
  by_cases same : a' = a
  · subst same
    cases b with
    | none => simp [assign]
    | some b => simp [assign]
  · rw [if_neg same]
    cases b with
    | none => exact Finmap.lookup_erase_ne same
    | some b => exact Finmap.lookup_insert_of_ne _ same

/-- What is read off the entries stays the same if it does for the key. -/
theorem read_assign [DecidableEq α] {γ : Type} {m : FiniteMap α β} {a : α} {b : Option β}
    {f : Option β → γ} (same : f b = f (m.lookup a)) (a' : α) :
    f ((assign m a b).lookup a') = f (m.lookup a') := by
  rw [lookup_assign]
  split
  · rename_i own
    rw [own, same]
  · rfl

theorem keyed_assign [DecidableEq α] {m : FiniteMap α β} {key : β → α} {a : α} {b : Option β}
    (keyed : ∀ a b, m.lookup a = some b → key b = a) (named : ∀ new ∈ b, key new = a) (a' : α)
    (b' : β) (found : (assign m a b).lookup a' = some b') : key b' = a' := by
  rw [lookup_assign] at found
  split at found
  · rename_i same
    rw [same]
    exact named b' found
  · exact keyed a' b' found

def eraseAll [DecidableEq α] (m : FiniteMap α β) (keys : List α) : FiniteMap α β :=
  keys.foldl (fun m a => m.erase a) m

theorem lookup_eraseAll [DecidableEq α] (m : FiniteMap α β) (keys : List α) (a : α) :
    (eraseAll m keys).lookup a = if a ∈ keys then none else m.lookup a := by
  induction keys generalizing m with
  | nil => rfl
  | cons head tail ih =>
      change (eraseAll (m.erase head) tail).lookup a = _
      rw [ih]
      by_cases later : a ∈ tail
      · simp [later]
      · by_cases same : a = head
        · subst same
          simp [later, Finmap.lookup_erase]
        · simp [later, same, Finmap.lookup_erase_ne same]

theorem mem_eraseAll [DecidableEq α] (m : FiniteMap α β) (keys : List α) (a : α) :
    a ∈ eraseAll m keys ↔ a ∈ m ∧ a ∉ keys := by
  rw [← Finmap.lookup_isSome, lookup_eraseAll, ← Finmap.lookup_isSome]
  by_cases h : a ∈ keys <;> simp [h]

/-- The values of the map, one for each key. -/
def values (m : FiniteMap α β) : Multiset β := m.entries.map Sigma.snd

instance (m : FiniteMap α β) (p : β → Prop) [DecidablePred p] :
    Decidable (∃ b ∈ values m, p b) :=
  Multiset.decidableExistsMultiset

theorem mem_values [DecidableEq α] (m : FiniteMap α β) (b : β) :
    b ∈ values m ↔ ∃ a, m.lookup a = some b := by
  simp only [values, Multiset.mem_map]
  constructor
  · rintro ⟨entry, member, rfl⟩
    exact ⟨entry.1, Finmap.mem_lookup_iff.mpr member⟩
  · rintro ⟨a, found⟩
    exact ⟨⟨a, b⟩, Finmap.mem_lookup_iff.mp found, rfl⟩

theorem entries_nodup (m : FiniteMap α β) : m.entries.Nodup :=
  Multiset.Nodup.of_map Sigma.fst (Multiset.nodup_keys.mpr m.nodupKeys)

def lookup₂ [DecidableEq α] [DecidableEq β] (m : FiniteMap α (FiniteMap β γ))
    (a : α) (b : β) : Option γ :=
  (m.lookup a).bind fun inner => inner.lookup b

/-- The values of a map of maps, one for each pair of keys. -/
def values₂ (m : FiniteMap α (FiniteMap β γ)) : Multiset γ :=
  m.entries.bind fun entry => values entry.2

theorem mem_values₂ [DecidableEq α] [DecidableEq β] (m : FiniteMap α (FiniteMap β γ))
    (c : γ) : c ∈ values₂ m ↔ ∃ a b, lookup₂ m a b = some c := by
  simp only [values₂, Multiset.mem_bind, mem_values, lookup₂, Option.bind_eq_some_iff]
  constructor
  · rintro ⟨entry, member, b, found⟩
    exact ⟨entry.1, b, entry.2, Finmap.mem_lookup_iff.mpr member, found⟩
  · rintro ⟨a, b, inner, outer, found⟩
    exact ⟨⟨a, inner⟩, Finmap.mem_lookup_iff.mp outer, b, found⟩

/-- The values of a map of maps are distinct exactly when no value stands at
two pairs of keys. -/
theorem values₂_nodup_iff [DecidableEq α] [DecidableEq β]
    (m : FiniteMap α (FiniteMap β γ)) :
    (values₂ m).Nodup ↔ ∀ a b a' b' c,
      lookup₂ m a b = some c → lookup₂ m a' b' = some c → a = a' ∧ b = b' := by
  let flat : Multiset ((α × β) × γ) :=
    m.entries.bind fun outer => outer.2.entries.map fun inner => ((outer.1, inner.1), inner.2)
  have mem (a : α) (b : β) (c : γ) : ((a, b), c) ∈ flat ↔ lookup₂ m a b = some c := by
    simp only [flat, Multiset.mem_bind, Multiset.mem_map, lookup₂, Option.bind_eq_some_iff]
    constructor
    · rintro ⟨outer, outerMem, inner, innerMem, same⟩
      cases same
      exact ⟨outer.2, Finmap.mem_lookup_iff.mpr outerMem, Finmap.mem_lookup_iff.mpr innerMem⟩
    · rintro ⟨inner, outerFound, innerFound⟩
      exact ⟨⟨a, inner⟩, Finmap.mem_lookup_iff.mp outerFound, ⟨b, c⟩,
        Finmap.mem_lookup_iff.mp innerFound, rfl⟩
  have flatNodup : flat.Nodup := by
    apply Multiset.nodup_bind.mpr
    refine ⟨?_, ?_⟩
    · intro outer _
      apply (entries_nodup outer.2).map
      intro x y same
      simp only [Prod.mk.injEq, true_and] at same
      exact Sigma.ext same.1 (heq_of_eq same.2)
    · have keys : (m.entries.map Sigma.fst).Nodup := Multiset.nodup_keys.mpr m.nodupKeys
      refine (entries_nodup m).pairwise ?_
      intro x xMem y yMem different
      apply Multiset.disjoint_left.mpr
      intro entry inX inY
      obtain ⟨_, _, rfl⟩ := Multiset.mem_map.mp inX
      obtain ⟨_, _, same⟩ := Multiset.mem_map.mp inY
      simp only [Prod.mk.injEq] at same
      exact different ((Multiset.nodup_map_iff_inj_on (entries_nodup m)).mp keys
        x xMem y yMem same.1.1.symm)
  have image : values₂ m = flat.map Prod.snd := by
    simp only [values₂, values, flat, Multiset.map_bind, Multiset.map_map, Function.comp_def]
  rw [image, Multiset.nodup_map_iff_inj_on flatNodup]
  constructor
  · intro injective a b a' b' c first second
    have same := injective _ ((mem a b c).mpr first) _ ((mem a' b' c).mpr second) rfl
    simpa using same
  · rintro separate ⟨⟨a, b⟩, c⟩ first ⟨⟨a', b'⟩, c'⟩ second same
    change c = c' at same
    subst same
    obtain ⟨rfl, rfl⟩ := separate a b a' b' c ((mem a b c).mp first) ((mem a' b' c).mp second)
    rfl

end FiniteMap
