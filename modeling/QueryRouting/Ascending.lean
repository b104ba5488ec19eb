/-!
# Ascending lists

Lists in strictly ascending order of a key, so that no key occurs twice.  They
serve as sets of names, as tables from names to values, and as the hosts of a
registry.

## Main definitions

* `Ascending key xs` — the order.
* `insertBy key a xs` — `a` at its place, instead of an element of the same key.
* `sortBy key xs` — the elements of a list in ascending order, of each key the first.
* `arrange key xs` — the elements of a list in the order of their keys, all of them.

## Main results

* `Ascending.insertBy`, `ascending_sortBy` — both are ascending.
* `perm_arrange`, `ascending_arrange` — arranging keeps every element, and orders different keys.
* `mem_insertBy`, `mem_sortBy_names` — what they hold.
* `find?_key_eq_some_iff` — of different keys, a scan for one finds what has it.
* `Ascending.eq_of_mem_iff` — an ascending list is known by its elements.
* `perm_flatMap_filter` — the groups of all keys make up the list.
-/

namespace QueryRouting

/-- The keys of the list are in strictly ascending order. -/
def Ascending {α κ : Type} [LT κ] (key : α → κ) (xs : List α) : Prop :=
  xs.Pairwise fun a b => key a < key b

/-- The list with `a` before the first element of a greater key, and without any
element of its own key. -/
def insertBy {α κ : Type} [LT κ] [DecidableLT κ] (key : α → κ) (a : α) : List α → List α
  | [] => [a]
  | b :: bs =>
    if key a < key b then a :: b :: bs
    else if key b < key a then b :: insertBy key a bs
    else a :: bs

/-- The elements in ascending order; of several with one key the first is kept. -/
def sortBy {α κ : Type} [LT κ] [DecidableLT κ] (key : α → κ) : List α → List α
  | [] => []
  | a :: as => insertBy key a (sortBy key as)

/-- The list with `a` before the first element whose key is not smaller. -/
def slotIn {α κ : Type} [LT κ] [DecidableLT κ] (key : α → κ) (a : α) : List α → List α
  | [] => [a]
  | b :: bs => if key b < key a then b :: slotIn key a bs else a :: b :: bs

/-- The elements in the order of their keys; those of one key stay as they are. -/
def arrange {α κ : Type} [LT κ] [DecidableLT κ] (key : α → κ) : List α → List α
  | [] => []
  | a :: as => slotIn key a (arrange key as)

theorem perm_slotIn {α κ : Type} [LT κ] [DecidableLT κ] (key : α → κ) (a : α) (xs : List α) :
    (slotIn key a xs).Perm (a :: xs) := by
  induction xs with
  | nil => exact List.Perm.refl _
  | cons b bs ih =>
    rw [slotIn]
    split
    · exact (ih.cons b).trans (List.Perm.swap a b bs)
    · exact List.Perm.refl _

/-- Arranging keeps every element. -/
theorem perm_arrange {α κ : Type} [LT κ] [DecidableLT κ] (key : α → κ) (xs : List α) :
    (arrange key xs).Perm xs := by
  induction xs with
  | nil => exact List.Perm.refl _
  | cons a as ih => exact (perm_slotIn key a _).trans (ih.cons a)

theorem eq_or_mem_of_mem_insertBy {α κ : Type} [LT κ] [DecidableLT κ] {key : α → κ} {a b : α}
    {xs : List α} (h : b ∈ insertBy key a xs) : b = a ∨ b ∈ xs := by
  induction xs with
  | nil => simpa [insertBy] using h
  | cons c cs ih =>
    rw [insertBy] at h
    split at h
    · simpa using h
    · split at h
      · rcases List.mem_cons.mp h with rfl | h
        · simp
        · rcases ih h with rfl | h
          · simp
          · simp [h]
      · rcases List.mem_cons.mp h with rfl | h
        · simp
        · simp [h]

section

variable {α κ : Type} [LT κ] [LE κ] [Std.IsLinearOrder κ] [Std.LawfulOrderLT κ]
  {key : α → κ} {a b : α} {xs : List α}

theorem key_eq_of_not_lt (h : ¬key a < key b) (h' : ¬key b < key a) : key a = key b := by
  rcases Std.lt_trichotomy (key a) (key b) with hlt | heq | hlt
  · exact absurd hlt h
  · exact heq
  · exact absurd hlt h'

variable [DecidableLT κ]

/-- Inserting keeps the order. -/
theorem Ascending.insertBy (h : Ascending key xs) : Ascending key (insertBy key a xs) := by
  induction xs with
  | nil => simp [QueryRouting.insertBy, Ascending]
  | cons c cs ih =>
    obtain ⟨hc, hcs⟩ := List.pairwise_cons.mp h
    rw [QueryRouting.insertBy]
    split
    · next hlt =>
      refine List.pairwise_cons.mpr ⟨fun x hx => ?_, h⟩
      rcases List.mem_cons.mp hx with rfl | hx
      · exact hlt
      · exact Std.lt_trans hlt (hc x hx)
    · next hnot =>
      split
      · next hlt =>
        refine List.pairwise_cons.mpr ⟨fun x hx => ?_, ih hcs⟩
        rcases eq_or_mem_of_mem_insertBy hx with rfl | hx
        · exact hlt
        · exact hc x hx
      · next hnot' =>
        refine List.pairwise_cons.mpr ⟨fun x hx => ?_, hcs⟩
        rw [key_eq_of_not_lt hnot hnot']
        exact hc x hx

/-- What an insertion holds: the new element, and the old ones of other keys. -/
theorem mem_insertBy (h : Ascending key xs) :
    b ∈ QueryRouting.insertBy key a xs ↔ b = a ∨ (b ∈ xs ∧ key b ≠ key a) := by
  induction xs with
  | nil => simp [QueryRouting.insertBy]
  | cons c cs ih =>
    obtain ⟨hc, hcs⟩ := List.pairwise_cons.mp h
    rw [QueryRouting.insertBy]
    split
    · -- The new element comes first: no key in the list equals its key.
      next hlt =>
      have hne : ∀ x ∈ c :: cs, key x ≠ key a := by
        intro x hx e
        rcases List.mem_cons.mp hx with rfl | hx
        · exact Std.lt_irrefl (e ▸ hlt)
        · exact Std.lt_irrefl (e ▸ Std.lt_trans hlt (hc x hx))
      rw [List.mem_cons]
      exact ⟨fun h => h.imp_right fun h => ⟨h, hne b h⟩, fun h => h.imp_right And.left⟩
    · next hnot =>
      split
      · -- The new element comes later: the head stays, and its key is another.
        next hlt =>
        have hne : key c ≠ key a := fun e => Std.lt_irrefl (e ▸ hlt)
        rw [List.mem_cons, ih hcs, List.mem_cons]
        constructor
        · rintro (rfl | rfl | ⟨hb, hk⟩)
          · exact Or.inr ⟨Or.inl rfl, hne⟩
          · exact Or.inl rfl
          · exact Or.inr ⟨Or.inr hb, hk⟩
        · rintro (rfl | ⟨rfl | hb, hk⟩)
          · exact Or.inr (Or.inl rfl)
          · exact Or.inl rfl
          · exact Or.inr (Or.inr ⟨hb, hk⟩)
      · -- The keys are equal: the head goes, and the later keys are greater.
        next hnot' =>
        have heq := key_eq_of_not_lt hnot hnot'
        rw [List.mem_cons, List.mem_cons]
        constructor
        · rintro (rfl | hb)
          · exact Or.inl rfl
          · exact Or.inr ⟨Or.inr hb, fun e => Std.lt_irrefl (a := key a) (by
              have := hc b hb
              rw [e, ← heq] at this
              exact this)⟩
        · rintro (rfl | ⟨rfl | hb, hk⟩)
          · exact Or.inl rfl
          · exact absurd heq.symm hk
          · exact Or.inr hb

/-- Sorting orders the list. -/
theorem ascending_sortBy (key : α → κ) (xs : List α) : Ascending key (sortBy key xs) := by
  induction xs with
  | nil => exact List.Pairwise.nil
  | cons a as ih => exact ih.insertBy

/-- A list of names keeps every name when it is sorted. -/
theorem mem_sortBy_names {s : κ} {names : List κ} : s ∈ sortBy id names ↔ s ∈ names := by
  induction names with
  | nil => rfl
  | cons t ts ih =>
    rw [sortBy, mem_insertBy (ascending_sortBy id ts), List.mem_cons, ih]
    by_cases h : s = t <;> simp [h]

/-- An element whose key is new finds a slot in an ascending list. -/
theorem Ascending.slotIn (h : Ascending key xs) (hnew : ∀ x ∈ xs, key x ≠ key a) :
    Ascending key (slotIn key a xs) := by
  induction xs with
  | nil => simp [QueryRouting.slotIn, Ascending]
  | cons b bs ih =>
    obtain ⟨hb, hbs⟩ := List.pairwise_cons.mp h
    rw [QueryRouting.slotIn]
    split
    · next hlt =>
      refine List.pairwise_cons.mpr ⟨fun x hx => ?_, ih hbs fun x hx => hnew x (by simp [hx])⟩
      rcases List.mem_cons.mp ((perm_slotIn key a bs).mem_iff.mp hx) with rfl | hx
      · exact hlt
      · exact hb x hx
    · next hnot =>
      have hlt : key a < key b := by
        rcases Std.lt_trichotomy (key a) (key b) with hlt | heq | hlt
        · exact hlt
        · exact absurd heq.symm (hnew b List.mem_cons_self)
        · exact absurd hlt hnot
      refine List.pairwise_cons.mpr ⟨fun x hx => ?_, h⟩
      rcases List.mem_cons.mp hx with rfl | hx
      · exact hlt
      · exact Std.lt_trans hlt (hb x hx)

/-- Elements of different keys are in ascending order when they are arranged. -/
theorem ascending_arrange (h : xs.Pairwise fun a b => key a ≠ key b) :
    Ascending key (arrange key xs) := by
  induction xs with
  | nil => exact List.Pairwise.nil
  | cons a as ih =>
    obtain ⟨ha, has⟩ := List.pairwise_cons.mp h
    refine (ih has).slotIn fun x hx => ?_
    exact (ha x ((perm_arrange key as).mem_iff.mp hx)).symm

omit [Std.IsLinearOrder κ] [DecidableLT κ] in
/-- An ascending list holds one element of a key at most. -/
theorem Ascending.eq_of_key_eq (h : Ascending key xs) (ha : a ∈ xs) (hb : b ∈ xs)
    (e : key a = key b) : a = b := by
  induction xs with
  | nil => simp at ha
  | cons c cs ih =>
    obtain ⟨hc, hcs⟩ := List.pairwise_cons.mp h
    rcases List.mem_cons.mp ha with rfl | ha' <;> rcases List.mem_cons.mp hb with rfl | hb'
    · rfl
    · exact absurd (e ▸ hc b hb') Std.lt_irrefl
    · exact absurd (e ▸ hc a ha') Std.lt_irrefl
    · exact ih hcs ha' hb'

omit [Std.IsLinearOrder κ] [DecidableLT κ] in
/-- An ascending list holds no element twice. -/
theorem Ascending.nodup (h : Ascending key xs) : xs.Nodup := by
  apply List.Pairwise.imp _ h
  intro a b hlt e
  rw [e] at hlt
  exact Std.lt_irrefl hlt

omit [DecidableLT κ] in
/-- An ascending list is known by its elements. -/
theorem Ascending.eq_of_mem_iff {ys : List α} (h : Ascending key xs) (h' : Ascending key ys)
    (hmem : ∀ a, a ∈ xs ↔ a ∈ ys) : xs = ys := by
  apply List.Perm.eq_of_pairwise _ h h'
  · exact (List.perm_ext_iff_of_nodup h.nodup h'.nodup).mpr hmem
  · intro a b _ _ hab hba
    exact absurd (Std.lt_trans hab hba) Std.lt_irrefl

end

/-- Of elements of different keys, a scan for one key finds the element that has it. -/
theorem find?_key_eq_some_iff {α κ : Type} [DecidableEq κ] {key : α → κ} {k : κ} {a : α}
    {xs : List α} (h : xs.Pairwise fun a b => key a ≠ key b) :
    xs.find? (key · = k) = some a ↔ a ∈ xs ∧ key a = k := by
  induction xs with
  | nil => simp
  | cons b bs ih =>
    obtain ⟨hb, hbs⟩ := List.pairwise_cons.mp h
    rw [List.find?_cons, List.mem_cons]
    by_cases hk : key b = k
    · -- No later element has the key.
      have hlater : a ∈ bs → key a ≠ k := fun ha e => hb a ha (hk.trans e.symm)
      simp only [hk, decide_true, Option.some.injEq]
      constructor
      · rintro rfl
        exact ⟨Or.inl rfl, hk⟩
      · rintro ⟨rfl | ha, e⟩
        · rfl
        · exact absurd e (hlater ha)
    · simp only [hk, decide_false, ih hbs]
      constructor
      · exact fun ⟨ha, e⟩ => ⟨Or.inr ha, e⟩
      · rintro ⟨rfl | ha, e⟩
        · exact absurd e hk
        · exact ⟨ha, e⟩

/-- Dropping elements keeps the order. -/
theorem Ascending.filter {α κ : Type} [LT κ] {key : α → κ} {xs : List α} (h : Ascending key xs)
    (p : α → Bool) : Ascending key (xs.filter p) :=
  List.Pairwise.filter p h

/-- The elements of a list, key by key, are the elements of the list: every one has one key. -/
theorem perm_flatMap_filter {α κ : Type} [DecidableEq κ] {key : α → κ} {keys : List κ}
    {xs : List α} (hkeys : keys.Nodup) (h : ∀ x ∈ xs, key x ∈ keys) :
    (keys.flatMap fun k => xs.filter (key · = k)).Perm xs := by
  induction keys generalizing xs with
  | nil =>
    have hnil : xs = [] := List.eq_nil_iff_forall_not_mem.mpr fun x hx => by simpa using h x hx
    rw [hnil, List.flatMap_nil]
  | cons k keys ih =>
    obtain ⟨hk, hkeys⟩ := List.nodup_cons.mp hkeys
    have hothers : ∀ x ∈ xs.filter (fun x => !decide (key x = k)), key x ∈ keys := by
      intro x hx
      obtain ⟨hx, hne⟩ := List.mem_filter.mp hx
      exact (List.mem_cons.mp (h x hx)).resolve_left (by simpa using hne)
    -- The elements of the later keys are among those that the first key leaves.
    have hgroups : (keys.flatMap fun k' => xs.filter (key · = k'))
        = keys.flatMap fun k' => (xs.filter fun x => !decide (key x = k)).filter (key · = k') := by
      rw [List.flatMap_def, List.flatMap_def]
      refine congrArg List.flatten (List.map_congr_left fun k' hk' => ?_)
      have hne : k' ≠ k := fun e => hk (e ▸ hk')
      rw [List.filter_filter]
      refine List.filter_congr fun x _ => ?_
      by_cases hx : key x = k' <;> simp [hx, hne]
    rw [List.flatMap_cons, hgroups]
    exact ((ih hkeys hothers).append_left _).trans (List.filter_append_perm ..)

end QueryRouting
