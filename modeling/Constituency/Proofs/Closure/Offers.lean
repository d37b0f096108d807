import Constituency.Proofs.Closure.RuleChain

/-!
# Offers of chains

Both stages of a closure take chains in one after the other: the rules at first, and then for every
intermediate symbol the chains that meet there. What stands between two symbols in the end depends on
the offers for these two symbols only (`get?_offerAll`), and of several offers a best one is kept
(`foldl_better`).
-/
namespace Constituency.BestChains

variable {σ : Type} [Score σ]

/-- What an offer makes of the chain between its ends. -/
def better (old : Option (BestChain σ)) (new : BestChain σ) : BestChain σ :=
  match old with
  | none => new
  | some o => if Score.lt o.score new.score then new else o

/-- Take chains in, one after the other. -/
def offerAll (b : BestChains σ) (offers : List (Ends × BestChain σ)) : BestChains σ :=
  offers.foldl (fun b o => b.offer o.1 o.2) b

/-- The chains that rules offer. -/
def ruleOffers (rules : List (UnaryRule σ)) : List (Ends × BestChain σ) :=
  (properRules rules).map fun r => ((r.parent, r.child), ⟨r.score, none⟩)

/-- The chains that an intermediate symbol offers. -/
def joins (b : BestChains σ) (meet : Symbol) : List (Ends × BestChain σ) :=
  (b.chains.column meet).flatMap fun u =>
    ((b.chains.row meet).filter fun l => u.1 ≠ l.1).map fun l =>
      ((u.1, l.1), ⟨Score.add u.2.score l.2.score, some meet⟩)

theorem better_eq_or (old : Option (BestChain σ)) (new : BestChain σ) :
    old = some (better old new) ∨ better old new = new := by
  cases old with
  | none => exact Or.inr rfl
  | some o =>
    simp only [better]
    split_ifs
    · exact Or.inr rfl
    · exact Or.inl rfl

theorem get?_offer (b : BestChains σ) (x y : Ends) (new : BestChain σ) :
    (b.offer x new).get? y = if x = y then some (better (b.get? x) new) else b.get? y := by
  unfold offer better
  cases h : b.get? x with
  | none => simp [get?]
  | some old =>
    by_cases hlt : Score.lt old.score new.score = true
    · simp [get?, hlt]
    · by_cases hxy : x = y
      · subst hxy
        simp [hlt, h]
      · simp [hlt, hxy]

/-- What stands between two symbols after some offers depends on the offers for these symbols only. -/
theorem get?_offerAll (b : BestChains σ) (offers : List (Ends × BestChain σ)) (x : Ends) :
    (b.offerAll offers).get? x =
      ((offers.filter (·.1 = x)).map (·.2)).foldl (fun e n => some (better e n)) (b.get? x) := by
  induction offers generalizing b with
  | nil => rfl
  | cons o offers ih =>
    have h := ih (b.offer o.1 o.2)
    rw [get?_offer] at h
    by_cases hx : o.1 = x
    · subst hx
      simpa [offerAll] using h
    · simpa [offerAll, hx] using h

/-- A chain that is found after some offers had been found before or is one of the offers. -/
theorem get?_or_mem_of_offerAll {b : BestChains σ} {offers : List (Ends × BestChain σ)} {x : Ends}
    {e : BestChain σ} (h : (b.offerAll offers).get? x = some e) :
    b.get? x = some e ∨ (x, e) ∈ offers := by
  induction offers generalizing b with
  | nil => exact Or.inl h
  | cons o offers ih =>
    rcases ih (b := b.offer o.1 o.2) h with hold | hmem
    · rw [get?_offer] at hold
      split_ifs at hold with hx
      · rcases better_eq_or (b.get? o.1) o.2 with hkept | hnew
        · exact Or.inl (by rw [← hx, hkept, hold])
        · rw [hnew, Option.some.injEq] at hold
          exact Or.inr (by simp [← hx, ← hold])
      · exact Or.inl hold
    · exact Or.inr (List.mem_cons_of_mem o hmem)

/-- The ends that are listed are those between which there is a chain. -/
def IsListed (b : BestChains σ) : Prop := ∀ x, x ∈ b.found ↔ (b.get? x).isSome

omit [Score σ] in
theorem isListed_empty : (empty : BestChains σ).IsListed := by
  intro x
  simp [empty, get?]

theorem mem_found_offer (b : BestChains σ) (x y : Ends) (new : BestChain σ) :
    y ∈ (b.offer x new).found ↔ y ∈ b.found ∨ x = y ∧ b.get? x = none := by
  unfold offer
  cases h : b.get? x with
  | none => simp [or_comm, eq_comm]
  | some old => by_cases hlt : Score.lt old.score new.score = true <;> simp [hlt]

theorem IsListed.offer {b : BestChains σ} (h : b.IsListed) (x : Ends) (new : BestChain σ) :
    (b.offer x new).IsListed := by
  intro y
  rw [mem_found_offer, get?_offer, h y]
  by_cases hxy : x = y
  · subst hxy
    cases b.get? x <;> simp
  · simp [hxy]

theorem IsListed.offerAll {b : BestChains σ} (h : b.IsListed) (offers : List (Ends × BestChain σ)) :
    (b.offerAll offers).IsListed := by
  unfold BestChains.offerAll
  exact List.foldlRecOn offers _ h fun _ hb o _ => hb.offer o.1 o.2

theorem ofRules_eq (rules : List (UnaryRule σ)) :
    ofRules rules = empty.offerAll (ruleOffers rules) := by
  unfold ofRules offerAll ruleOffers properRules
  rw [List.foldl_map, List.foldl_filter]
  congr
  funext b r
  by_cases h : r.parent = r.child <;> simp [h]

theorem through_eq (b : BestChains σ) (meet : Symbol) :
    b.through meet = b.offerAll (b.joins meet) := by
  unfold through offerAll joins
  rw [List.foldl_flatMap]
  dsimp only
  congr
  funext b' u
  rw [List.foldl_map, List.foldl_filter]
  congr
  funext b' l
  by_cases h : u.1 = l.1 <;> simp [join, h]

/-- An intermediate symbol offers a chain for every chain to it and every chain from it. -/
theorem mem_joins {b : BestChains σ} {meet : Symbol} {o : Ends × BestChain σ} :
    o ∈ b.joins meet ↔ ∃ upper lower, b.get? (o.1.1, meet) = some upper ∧
      b.get? (meet, o.1.2) = some lower ∧ o.1.1 ≠ o.1.2 ∧
      o.2 = ⟨Score.add upper.score lower.score, some meet⟩ := by
  obtain ⟨⟨p, c⟩, e⟩ := o
  simp only [joins, List.mem_flatMap, List.mem_map, List.mem_filter, Prod.mk.injEq]
  constructor
  · rintro ⟨⟨u, upper⟩, hu, ⟨l, lower⟩, ⟨hl, hne⟩, ⟨rfl, rfl⟩, rfl⟩
    exact ⟨upper, lower, PairMap.mem_column.mp hu, PairMap.mem_row.mp hl, by simpa using hne, rfl⟩
  · rintro ⟨upper, lower, hu, hl, hne, rfl⟩
    exact ⟨(p, upper), PairMap.mem_column.mpr hu, (c, lower),
      ⟨PairMap.mem_row.mpr hl, by simpa using hne⟩, ⟨rfl, rfl⟩, rfl⟩

section Order

variable [OrderedScore σ]

theorem new_le_better (old : Option (BestChain σ)) (new : BestChain σ) :
    new.score ≤ (better old new).score := by
  cases old with
  | none => exact le_rfl
  | some o =>
    simp only [better, Score.lt_iff]
    split_ifs with h
    · exact le_rfl
    · exact not_lt.mp h

theorem old_le_better (old new : BestChain σ) : old.score ≤ (better (some old) new).score := by
  simp only [better, Score.lt_iff]
  split_ifs with h
  · exact h.le
  · exact le_rfl

/-- Out of a chain and some offers a best one is kept. -/
theorem foldl_better {old : Option (BestChain σ)} {offers : List (BestChain σ)} {o : BestChain σ}
    (h : old = some o ∨ o ∈ offers) : ∃ e,
      offers.foldl (fun e n => some (better e n)) old = some e ∧ o.score ≤ e.score := by
  induction offers generalizing old o with
  | nil => exact ⟨o, by simpa using h, le_rfl⟩
  | cons n offers ih =>
    have hkept : some (better old n) = some (better old n) ∨ better old n ∈ offers := Or.inl rfl
    obtain ⟨e, he, hbe⟩ := ih hkept
    rcases h with rfl | h
    · exact ⟨e, he, (old_le_better o n).trans hbe⟩
    · rcases List.mem_cons.mp h with rfl | h
      · exact ⟨e, he, (new_le_better old o).trans hbe⟩
      · exact ih (Or.inr h)

/-- Several equal offers count as one. -/
theorem foldl_better_const (old : Option (BestChain σ)) (new : BestChain σ)
    (offers : List (BestChain σ)) (hne : offers ≠ []) (h : ∀ o ∈ offers, o = new) :
    offers.foldl (fun e n => some (better e n)) old = some (better old new) := by
  induction offers generalizing old with
  | nil => contradiction
  | cons n offers ih =>
    obtain rfl : n = new := h n (by simp)
    by_cases hs : offers = []
    · simp [hs]
    · rw [List.foldl_cons, ih _ hs fun o ho => h o (by simp [ho])]
      cases old with
      | none => simp [better, OrderedScore.lt_irrefl]
      | some o => by_cases hlt : o.score < n.score <;> simp [better, Score.lt_iff, hlt]

/-- The chain between two symbols after an intermediate one has been admitted. -/
theorem get?_through (b : BestChains σ) (meet p c : Symbol) :
    (b.through meet).get? (p, c) =
      match b.get? (p, meet), b.get? (meet, c) with
      | some upper, some lower =>
          if p = c then b.get? (p, c)
          else some (better (b.get? (p, c)) ⟨Score.add upper.score lower.score, some meet⟩)
      | _, _ => b.get? (p, c) := by
  rw [through_eq, get?_offerAll]
  by_cases hjoin : ∃ o ∈ b.joins meet, o.1 = (p, c)
  · obtain ⟨o, ho, hpc⟩ := hjoin
    obtain ⟨upper, lower, hu, hl, hne, he⟩ := mem_joins.mp ho
    simp only [hpc] at hu hl hne
    simp only [hu, hl, if_neg hne]
    apply foldl_better_const
    · simp only [ne_eq, List.map_eq_nil_iff, List.filter_eq_nil_iff, decide_eq_true_eq, not_forall]
      exact ⟨o, ho, not_not.mpr hpc⟩
    · intro e he'
      simp only [List.mem_map, List.mem_filter, decide_eq_true_eq] at he'
      obtain ⟨o', ⟨ho', hpc'⟩, rfl⟩ := he'
      obtain ⟨upper', lower', hu', hl', -, he'⟩ := mem_joins.mp ho'
      rw [hpc'] at hu' hl'
      rw [he', Option.some.inj (hu'.symm.trans hu), Option.some.inj (hl'.symm.trans hl)]
  · have hnil : (b.joins meet).filter (·.1 = (p, c)) = [] := by
      simp only [List.filter_eq_nil_iff, decide_eq_true_eq]
      exact fun o ho hpc => hjoin ⟨o, ho, hpc⟩
    rw [hnil]
    split
    · rename_i upper lower hu hl
      have hpc : p = c := by
        by_contra hne
        exact hjoin ⟨((p, c), ⟨Score.add upper.score lower.score, some meet⟩),
          mem_joins.mpr ⟨upper, lower, hu, hl, hne, rfl⟩, rfl⟩
      simp [hpc]
    · rfl

end Order

end Constituency.BestChains
