import Constituency.Proofs.Closure.Parents

/-!
# Links of chains

Whatever the scores are, every chain that is found is a rule, or was put together out of two chains that
have been found and stay (`isLinked_close`). So the symbols that a closure lists for two symbols are those
of rules that lead from the one to the other (`exists_leads`).
-/
namespace Constituency

namespace BestChains

variable {σ : Type} [Score σ]

/-- What is kept of a chain between two symbols is sound: it is a rule, or its parts have been found. -/
structure IsSound (rules : List (UnaryRule σ)) (b : BestChains σ) (ends : Ends)
    (e : BestChain σ) : Prop where
  rule : e.meet = none → ∃ r ∈ rules, r.parent = ends.1 ∧ r.child = ends.2
  parts : ∀ m, e.meet = some m → (b.get? (ends.1, m)).isSome ∧ (b.get? (m, ends.2)).isSome

/-- All chains that have been found are sound. -/
def IsLinked (rules : List (UnaryRule σ)) (b : BestChains σ) : Prop :=
  ∀ ends e, b.get? ends = some e → b.IsSound rules ends e

variable {rules : List (UnaryRule σ)} {b : BestChains σ}

/-- No chain is ever taken away. -/
theorem isSome_get?_offer {x : Ends} (h : (b.get? x).isSome) (y : Ends) (new : BestChain σ) :
    ((b.offer y new).get? x).isSome := by
  rw [get?_offer]
  split_ifs
  · rfl
  · exact h

theorem IsSound.offer {ends : Ends} {e : BestChain σ} (h : b.IsSound rules ends e) (x : Ends)
    (new : BestChain σ) : (b.offer x new).IsSound rules ends e where
  rule := h.rule
  parts m hm := ⟨isSome_get?_offer (h.parts m hm).1 x new, isSome_get?_offer (h.parts m hm).2 x new⟩

theorem IsLinked.offer (h : b.IsLinked rules) {x : Ends} {new : BestChain σ}
    (hnew : b.IsSound rules x new) : (b.offer x new).IsLinked rules := by
  intro y e he
  rw [get?_offer] at he
  split_ifs at he with hxy
  · subst hxy
    rw [Option.some.injEq] at he
    subst he
    rcases better_eq_or (b.get? x) new with hold | hbetter
    · exact (h x _ hold).offer x new
    · rw [hbetter]
      exact hnew.offer x new
  · exact (h y e he).offer x new

theorem IsLinked.offerAll (h : b.IsLinked rules) {offers : List (Ends × BestChain σ)}
    (hoffers : ∀ o ∈ offers, b.IsSound rules o.1 o.2) : (b.offerAll offers).IsLinked rules := by
  induction offers generalizing b with
  | nil => exact h
  | cons o offers ih =>
    rw [List.forall_mem_cons] at hoffers
    exact ih (h.offer hoffers.1) fun p hp => (hoffers.2 p hp).offer o.1 o.2

theorem isLinked_ofRules (rules : List (UnaryRule σ)) : (ofRules rules).IsLinked rules := by
  rw [ofRules_eq]
  refine IsLinked.offerAll (fun ends e he => by simp [empty, get?] at he) fun o ho => ?_
  obtain ⟨r, hr, rfl⟩ := List.mem_map.mp ho
  exact ⟨fun _ => ⟨r, (mem_properRules.mp hr).1, rfl, rfl⟩, by simp⟩

theorem isLinked_close (rules : List (UnaryRule σ)) : (ofRules rules).close.IsLinked rules := by
  refine close_of_through (isLinked_ofRules rules) fun b m hb => ?_
  rw [through_eq]
  refine hb.offerAll fun o ho => ?_
  obtain ⟨upper, lower, hu, hl, -, ho⟩ := mem_joins.mp ho
  refine ⟨by simp [ho], fun k hk => ?_⟩
  rw [ho, Option.some.injEq] at hk
  subst hk
  simp [hu, hl]

/-- Pending parts, each of which starts where the one before it ends. -/
def Follows : Symbol → List Ends → Symbol → Prop
  | p, [], c => p = c
  | p, ends :: pending, c => ends.1 = p ∧ Follows ends.2 pending c

omit [Score σ] in
/-- The symbols that sound parts unfold into are those of rules that lead on to the end of the parts. -/
theorem exists_leads_of_unfold (hb : b.IsLinked rules) {limit fuel : Nat} {pending : List Ends}
    {chain xs : List Symbol} {p c : Symbol} (h : b.unfold limit fuel pending chain = some xs)
    (hfound : ∀ ends ∈ pending, (b.get? ends).isSome) (hpending : Follows p pending c) :
    ∃ rs, (∀ r ∈ rs, r ∈ rules) ∧ Leads p rs c ∧ xs = chain.reverse ++ rs.map (·.child) := by
  induction fuel generalizing pending chain p with
  | zero =>
    cases pending with
    | nil =>
      rw [unfold, Option.some.injEq] at h
      exact ⟨[], by simp, hpending, by simp [h]⟩
    | cons ends pending => simp [unfold] at h
  | succ fuel ih =>
    cases pending with
    | nil =>
      rw [unfold, Option.some.injEq] at h
      exact ⟨[], by simp, hpending, by simp [h]⟩
    | cons ends pending =>
      rw [List.forall_mem_cons] at hfound
      obtain ⟨rfl, hpending⟩ := hpending
      obtain ⟨e, he⟩ := Option.isSome_iff_exists.mp hfound.1
      have hsound := hb ends e he
      have hmeet : b.meet? ends = e.meet := by simp [meet?, he]
      rw [unfold, hmeet] at h
      cases hm : e.meet with
      | some m =>
        rw [hm] at h
        obtain ⟨hupper, hlower⟩ := hsound.parts m hm
        refine ih h ?_ ⟨rfl, rfl, hpending⟩
        rw [List.forall_mem_cons, List.forall_mem_cons]
        exact ⟨hupper, hlower, hfound.2⟩
      | none =>
        simp only [hm] at h
        split_ifs at h
        obtain ⟨r, hr, hparent, hchild⟩ := hsound.rule hm
        obtain ⟨rs, hrs, hl, rfl⟩ := ih h hfound.2 hpending
        refine ⟨r :: rs, by simpa using ⟨hr, hrs⟩, ⟨hparent, hchild.symm ▸ hl⟩, ?_⟩
        simp [hchild]

end BestChains

namespace Closure

variable {σ : Type} [Score σ] {n : Nat} {rules : List (UnaryRule σ)} {c : Closure σ}

/-- The symbols that are listed for two different symbols are those of rules from the one to the other. -/
theorem exists_leads (h : Lists n rules c) {p q : Symbol} (hpq : p ≠ q) {path : List Symbol}
    (hpath : c.chain? p q = some path) :
    ∃ rs, (∀ r ∈ rs, r ∈ rules) ∧ Leads p rs q ∧ path = symbolsFrom p rs := by
  rw [chain?, if_neg fun hself => hpq hself.1, Option.map_eq_some_iff] at hpath
  obtain ⟨chain, hchain, rfl⟩ := hpath
  rw [h.get?_eq] at hchain
  split_ifs at hchain with hfound
  unfold listed? at hchain
  split at hchain
  · rename_i best symbols hbest hsymbols
    rw [Option.some.injEq] at hchain
    subst hchain
    exact BestChains.exists_leads_of_unfold (BestChains.isLinked_close rules) hsymbols
      (by simp [hbest]) ⟨rfl, rfl⟩
  · exact absurd hchain (by simp)

/-- The parents of a symbol are the symbol itself and those from which a listed chain leads to it. -/
theorem isSome_chain?_of_mem_parentsOf {child : Nat} (hchild : child < c.numSymbols) {p : Symbol}
    {s : σ} (h : (p, s) ∈ c.parentsOf child) : p = child ∨ (c.chain? p child).isSome := by
  rcases (mem_parentsOf hchild).mp h with hself | ⟨e, he, -⟩
  · exact Or.inl (Prod.ext_iff.mp hself).1
  · by_cases hp : p = child
    · exact Or.inl hp
    · exact Or.inr (by simp [chain?, hp, he])

/-- There is a closure of no rules. -/
theorem exists_ofRules?_nil (n : Nat) :
    ∃ c, ofRules? n ([] : List (UnaryRule σ)) = .ok c := by
  have hlist : listChains (BestChains.ofRules ([] : List (UnaryRule σ))).close n =
      .ok PairMap.empty := rfl
  have hreach : (⟨n, PairMap.empty⟩ : Closure σ).isWithinReach = true := by
    simp only [isWithinReach, List.all_eq_true]
    rintro x - ⟨p, chain⟩ he
    rw [PairMap.mem_column, PairMap.get?_empty] at he
    exact absurd he (by simp)
  refine ⟨⟨n, PairMap.empty⟩, ?_⟩
  rw [ofRules?, hlist]
  exact if_pos hreach

end Closure

end Constituency
