import Constituency.Proofs.Closure.Listing
import Mathlib.Tactic.NormNum

/-!
# Best chains

The closure of unary rules holds the best chain of rules between any two symbols. Rules from a symbol
to itself take no part in it. When no cycle of the other rules has a positive total, there always is a
closure (`exists_ofRules?`), its scores are the greatest totals (`total_le_score`), and the chains that it
lists have them (`exists_chain`).
-/
namespace Constituency.Closure

variable {σ : Type} [Score σ]

/-- The symbols of the rules are numbers below a bound. -/
def AreSymbols (n : Nat) (rules : List (UnaryRule σ)) : Prop :=
  ∀ r ∈ rules, (0 ≤ r.parent ∧ r.parent < n) ∧ 0 ≤ r.child ∧ r.child < n

/-- The sum of the best scores of the rules between neighbours. -/
def pathScore (rules : List (UnaryRule σ)) : List Symbol → σ
  | a :: b :: path => Score.add (bestRuleScore rules a b) (pathScore rules (b :: path))
  | _ => Score.zero

/-- The chain that is listed for two symbols. -/
def listed? (b : BestChains σ) (n : Nat) (ends : Ends) : Option (Chain σ) :=
  match b.get? ends, b.chainOf? n ends with
  | some best, some symbols => some ⟨best.score, symbols⟩
  | _, _ => none

/-- List one chain more. -/
def addEntry (b : BestChains σ) (n : Nat) (m : PairMap (Chain σ)) (ends : Ends) :
    Except ClosureError (PairMap (Chain σ)) :=
  match listed? b n ends with
  | some chain => .ok (m.insert ends chain)
  | none => .error (.cyclic ends)

theorem listChains_eq (b : BestChains σ) (n : Nat) :
    listChains b n = b.found.reverse.foldlM (addEntry b n) PairMap.empty := by
  unfold listChains addEntry listed?
  congr
  funext m ends
  cases b.get? ends <;> cases b.chainOf? n ends <;> rfl

omit [Score σ] in
/-- A listing without a gap holds all chains that it was to hold. -/
theorem foldlM_addEntry {b : BestChains σ} {n : Nat} (xs : List Ends) (m : PairMap (Chain σ))
    (h : ∀ x ∈ xs, (listed? b n x).isSome) :
    ∃ m', xs.foldlM (addEntry b n) m = .ok m' ∧
      ∀ x, m'.get? x = if x ∈ xs then listed? b n x else m.get? x := by
  induction xs generalizing m with
  | nil => exact ⟨m, rfl, by simp⟩
  | cons x xs ih =>
    obtain ⟨chain, hx⟩ := Option.isSome_iff_exists.mp (h x (by simp))
    obtain ⟨m', hm', hget⟩ := ih (m.insert x chain) fun y hy => h y (by simp [hy])
    refine ⟨m', ?_, fun y => ?_⟩
    · rw [List.foldlM_cons, addEntry, hx]
      exact hm'
    · rw [hget, PairMap.get?_insert]
      by_cases hxy : x = y
      · subst hxy
        by_cases hmem : x ∈ xs <;> simp [hmem, hx]
      · simp [hxy, Ne.symm hxy]

omit [Score σ] in
/-- A listing with a gap fails. -/
theorem isSome_of_foldlM {b : BestChains σ} {n : Nat} (xs : List Ends) (m m' : PairMap (Chain σ))
    (h : xs.foldlM (addEntry b n) m = .ok m') : ∀ x ∈ xs, (listed? b n x).isSome := by
  induction xs generalizing m with
  | nil => simp
  | cons x xs ih =>
    rw [List.foldlM_cons, addEntry] at h
    cases hx : listed? b n x with
    | none => simp [hx, bind, Except.bind] at h
    | some chain =>
      rw [hx] at h
      intro y hy
      rcases List.mem_cons.mp hy with rfl | hy
      · simp [hx]
      · exact ih _ h y hy

/-- A closure that lists the chains found for rules. -/
structure Lists (n : Nat) (rules : List (UnaryRule σ)) (c : Closure σ) : Prop where
  numSymbols_eq : c.numSymbols = n
  get?_eq : ∀ x, c.chains.get? x =
    if x ∈ (BestChains.ofRules rules).close.found then listed? (BestChains.ofRules rules).close n x
    else none

theorem lists_of_ofRules? {n : Nat} {rules : List (UnaryRule σ)} {c : Closure σ}
    (h : ofRules? n rules = .ok c) : Lists n rules c := by
  unfold ofRules? at h
  cases hl : listChains (BestChains.ofRules rules).close n with
  | error e => simp [hl, bind, Except.bind] at h
  | ok m =>
    simp only [hl, bind, Except.bind] at h
    split_ifs at h
    obtain rfl := Except.ok.inj h
    rw [listChains_eq] at hl
    obtain ⟨m', hm', hget⟩ := foldlM_addEntry _ PairMap.empty (isSome_of_foldlM _ _ _ hl)
    obtain rfl : m' = m := Except.ok.inj (hm'.symm.trans hl)
    exact ⟨rfl, fun x => by simpa using hget x⟩

/-- A chain that is listed has the score of one that was found. -/
theorem Lists.exists_best {n : Nat} {rules : List (UnaryRule σ)} {c : Closure σ} (h : Lists n rules c)
    {p q : Symbol} {e : Chain σ} (he : c.chains.get? (p, q) = some e) :
    ∃ best, (BestChains.ofRules rules).close.get? (p, q) = some best ∧ best.score = e.score := by
  rw [h.get?_eq] at he
  split_ifs at he
  unfold listed? at he
  split at he
  · rename_i best _ hbest _
    obtain rfl := Option.some.inj he
    exact ⟨best, hbest, rfl⟩
  · exact absurd he (by simp)

theorem Lists.hasSymbol_iff {n : Nat} {rules : List (UnaryRule σ)} {c : Closure σ}
    (h : Lists n rules c) (p : Symbol) : c.hasSymbol p = true ↔ 0 ≤ p ∧ p < n := by
  simp [hasSymbol, h.numSymbols_eq]

section Laws

variable [LawfulScore σ] {n : Nat} {rules : List (UnaryRule σ)}

/-- Every chain that has been found is listed by its symbols. -/
theorem listed?_close (hS : AreSymbols n rules) (hf : ∀ r ∈ rules, r.score ≠ ⊥)
    (hc : NoPositiveCycle (properRules rules)) {p c : Symbol} {e : BestChain σ}
    (he : (BestChains.ofRules rules).close.get? (p, c) = some e) :
    ∃ rs, BestChains.Unfolds rules {m | m ∈ (BestChains.ofRules rules).symbols}
        (BestChains.ofRules rules).close p c rs ∧ (symbolsFrom p rs).Nodup ∧
      listed? (BestChains.ofRules rules).close n (p, c) = some ⟨total rs, symbolsFrom p rs⟩ := by
  obtain ⟨rs, hrs, hnd⟩ := (BestChains.admitted_close hf hc).unfolds p c e he
  obtain ⟨meet, hget⟩ := hrs.get?
  exact ⟨rs, hrs, hnd, by simp [listed?, hget, BestChains.chainOf?_eq hS hrs hnd]⟩

/-- Without a positive cycle all chains are listed, and there is a closure unless a symbol is too large. -/
theorem exists_lists (hS : AreSymbols n rules) (hf : ∀ r ∈ rules, r.score ≠ ⊥)
    (hc : NoPositiveCycle (properRules rules)) :
    ∃ c, Lists n rules c ∧
      ofRules? n rules = if c.isWithinReach then .ok c else .error .outOfReach := by
  have hlisted := BestChains.isListed_close (BestChains.isListed_ofRules rules)
  obtain ⟨m, hm, hget⟩ := foldlM_addEntry (b := (BestChains.ofRules rules).close) (n := n)
    (BestChains.ofRules rules).close.found.reverse PairMap.empty fun x hx => by
      obtain ⟨e, he⟩ := Option.isSome_iff_exists.mp ((hlisted x).mp (List.mem_reverse.mp hx))
      obtain ⟨rs, -, -, hentry⟩ := listed?_close hS hf hc he
      simp [hentry]
  refine ⟨⟨n, m⟩, ⟨rfl, fun x => by simpa using hget x⟩, ?_⟩
  rw [← listChains_eq] at hm
  simp [ofRules?, hm, bind, Except.bind]

variable {c : Closure σ}

/-- Without a positive cycle a closure holds exactly the chains that have been found. -/
theorem get?_chains (hS : AreSymbols n rules) (hf : ∀ r ∈ rules, r.score ≠ ⊥)
    (hc : NoPositiveCycle (properRules rules)) (h : Lists n rules c) (p q : Symbol) :
    ((BestChains.ofRules rules).close.get? (p, q) = none ∧ c.chains.get? (p, q) = none) ∨
    ∃ rs, BestChains.Unfolds rules {m | m ∈ (BestChains.ofRules rules).symbols}
        (BestChains.ofRules rules).close p q rs ∧ (symbolsFrom p rs).Nodup ∧
      c.chains.get? (p, q) = some ⟨total rs, symbolsFrom p rs⟩ := by
  have hlisted := BestChains.isListed_close (BestChains.isListed_ofRules rules) (p, q)
  rw [h.get?_eq]
  cases he : (BestChains.ofRules rules).close.get? (p, q) with
  | none =>
    rw [he] at hlisted
    exact Or.inl ⟨rfl, if_neg (by simpa using hlisted)⟩
  | some e =>
    rw [he] at hlisted
    obtain ⟨rs, hrs, hnd, hentry⟩ := listed?_close hS hf hc he
    exact Or.inr ⟨rs, hrs, hnd, by rw [if_pos (hlisted.mpr rfl), hentry]⟩

/-- The scores of a closure are those of the chains that have been found. -/
theorem score_eq_reach (hS : AreSymbols n rules) (hf : ∀ r ∈ rules, r.score ≠ ⊥)
    (hc : NoPositiveCycle (properRules rules)) (h : Lists n rules c) {p q : Symbol}
    (hp : p ≠ q ∨ 0 ≤ p ∧ p < n) : c.score p q = (BestChains.ofRules rules).close.reach p q := by
  by_cases hpq : p = q
  · subst hpq
    have hsym := (h.hasSymbol_iff p).mpr (by simpa using hp)
    simp [score, hsym, Score.zero_eq]
  · simp only [score, hpq, false_and, if_false]
    rcases get?_chains hS hf hc h p q with ⟨hfound, hget⟩ | ⟨rs, hrs, -, hget⟩
    · simp [BestChains.reach, hpq, hfound, hget]
    · obtain ⟨meet, hmeet⟩ := hrs.get?
      simp [BestChains.reach, hpq, hmeet, hget]

/-- No chain of proper rules is better than the one of the closure. -/
theorem total_le_score (hS : AreSymbols n rules) (hf : ∀ r ∈ rules, r.score ≠ ⊥)
    (hc : NoPositiveCycle (properRules rules)) (h : Lists n rules c) {p q : Symbol}
    (hp : p ≠ q ∨ 0 ≤ p ∧ p < n) {rs : List (UnaryRule σ)} (hm : ∀ r ∈ rs, r ∈ properRules rules)
    (hl : Leads p rs q) : total rs ≤ c.score p q := by
  rw [score_eq_reach hS hf hc h hp]
  exact BestChains.total_le_reach_close hf hc hm hl

/-- No chain of rules is better either, when rules that stay at a symbol gain nothing. -/
theorem total_le_score_of_noPositiveCycle (hS : AreSymbols n rules) (hf : ∀ r ∈ rules, r.score ≠ ⊥)
    (hc : NoPositiveCycle rules) (h : Lists n rules c) {p q : Symbol}
    (hp : p ≠ q ∨ 0 ≤ p ∧ p < n) {rs : List (UnaryRule σ)} (hm : ∀ r ∈ rs, r ∈ rules)
    (hl : Leads p rs q) : total rs ≤ c.score p q := by
  refine (total_le_proper hc hm).trans (total_le_score hS hf hc.proper h hp ?_ hl.proper)
  intro r hr
  obtain ⟨hr, hne⟩ := mem_properRules.mp hr
  exact mem_properRules.mpr ⟨hm r hr, hne⟩

/-- Between two different symbols a closure lists a best chain, or there is no chain of rules. -/
theorem exists_chain (hS : AreSymbols n rules) (hf : ∀ r ∈ rules, r.score ≠ ⊥)
    (hc : NoPositiveCycle (properRules rules)) (h : Lists n rules c) {p q : Symbol}
    (hpq : p ≠ q) :
    (c.score p q = ⊥ ∧ c.chain? p q = none) ∨
    ∃ rs, (∀ r ∈ rs, r ∈ properRules rules) ∧
      (∀ r ∈ rs, bestRuleScore rules r.parent r.child = r.score) ∧ rs ≠ [] ∧ Leads p rs q ∧
      (symbolsFrom p rs).Nodup ∧ c.chain? p q = some (symbolsFrom p rs) ∧ c.score p q = total rs := by
  rcases get?_chains hS hf hc h p q with ⟨-, hget⟩ | ⟨rs, hrs, hnd, hget⟩
  · exact Or.inl ⟨by simp [score, hpq, hget, Score.bottom_eq_bot], by simp [chain?, hpq, hget]⟩
  · refine Or.inr ⟨rs, hrs.mem_rules, fun r hr => ?_, hrs.ne_nil, hrs.leads, hnd,
      by simp [chain?, hpq, hget], by simp [score, hpq, hget]⟩
    exact bestRuleScore_eq (mem_properRules.mp (hrs.mem_rules r hr)).1
      (hrs.best (BestChains.admitted_close hf hc) r hr)

/-- A rule over a best chain is not better than the best chain from its parent. -/
theorem add_score_le (hS : AreSymbols n rules) (hf : ∀ r ∈ rules, r.score ≠ ⊥)
    (hc : NoPositiveCycle rules) (h : Lists n rules c) {r : UnaryRule σ} (hr : r ∈ rules)
    {q : Symbol} (hq : 0 ≤ q ∧ q < n) : r.score + c.score r.child q ≤ c.score r.parent q := by
  have hchain : ∀ rs : List (UnaryRule σ), (∀ s ∈ rs, s ∈ rules) → Leads r.child rs q →
      r.score + total rs ≤ c.score r.parent q := fun rs hm hl => by
    have hlead : Leads r.parent (r :: rs) q := ⟨rfl, hl⟩
    rw [← total_cons]
    refine total_le_score_of_noPositiveCycle hS hf hc h ?_ ?_ hlead
    · by_cases heq : r.parent = q
      · exact Or.inr (heq ▸ hq)
      · exact Or.inl heq
    · simpa using ⟨hr, hm⟩
  by_cases hpq : r.child = q
  · have hself := hchain [] (by simp) hpq
    have hzero : c.score r.child q = 0 := by
      rw [hpq, score, if_pos ⟨rfl, (h.hasSymbol_iff q).mpr hq⟩, Score.zero_eq]
    rwa [hzero]
  · rcases exists_chain hS hf hc.proper h hpq with ⟨hbot, -⟩ | ⟨rs, hm, -, -, hl, -, -, hscore⟩
    · rw [hbot, Score.add_bot]
      exact bot_le
    · rw [hscore]
      exact hchain rs (fun s hs => (mem_properRules.mp (hm s hs)).1) hl

/-- The upper ends of all chains are upper ends of rules. -/
theorem isWithinReach_of_rules (hS : AreSymbols n rules) (hf : ∀ r ∈ rules, r.score ≠ ⊥)
    (hc : NoPositiveCycle (properRules rules)) (h : Lists n rules c)
    (hr : ∀ r ∈ rules, isReachable r.parent = true) : c.isWithinReach = true := by
  simp only [isWithinReach, List.all_eq_true]
  rintro x - ⟨p, chain⟩ he
  rw [PairMap.mem_column] at he
  rcases get?_chains hS hf hc h p x with ⟨-, hget⟩ | ⟨rs, hrs, -, -⟩
  · simp [hget] at he
  · obtain ⟨r, rs, rfl⟩ := List.exists_cons_of_ne_nil hrs.ne_nil
    rw [← hrs.leads.1]
    exact hr r (mem_properRules.mp (hrs.mem_rules r (by simp))).1

/-- There is a closure of rules without a positive cycle between symbols that are not too large. -/
theorem exists_ofRules? (hS : AreSymbols n rules) (hf : ∀ r ∈ rules, r.score ≠ ⊥)
    (hc : NoPositiveCycle (properRules rules)) (hr : ∀ r ∈ rules, isReachable r.parent = true) :
    ∃ c, ofRules? n rules = .ok c := by
  obtain ⟨c, hlists, hclosure⟩ := exists_lists hS hf hc
  exact ⟨c, by rw [hclosure, if_pos (isWithinReach_of_rules hS hf hc hlists hr)]⟩

omit [LawfulScore σ] in
/-- The symbols of a chain of best rules have the total of the chain. -/
theorem pathScore_symbolsFrom {rs : List (UnaryRule σ)} {p q : Symbol} (hl : Leads p rs q)
    (hb : ∀ r ∈ rs, bestRuleScore rules r.parent r.child = r.score) :
    pathScore rules (symbolsFrom p rs) = total rs := by
  induction rs generalizing p with
  | nil => rfl
  | cons r rs ih =>
    obtain ⟨rfl, hl⟩ := hl
    have hrs := ih hl fun q hq => hb q (by simp [hq])
    simp only [symbolsFrom, List.map_cons] at hrs ⊢
    rw [pathScore, hrs, hb r (by simp)]
    rfl

/-- A path of rules from one symbol to another: no symbol comes twice, every step is one of a rule that
does not stay where it is, and its score is a sum of best scores of rules. -/
structure IsPath (rules : List (UnaryRule σ)) (p q : Symbol) (path : List Symbol) (s : σ) : Prop where
  head : path.head? = some p
  last : path.getLast? = some q
  nodup : path.Nodup
  steps : path.IsChain fun a b => a ≠ b ∧ ∃ r ∈ rules, r.parent = a ∧ r.child = b
  score : pathScore rules path = s

omit [LawfulScore σ] in
theorem isPath_symbolsFrom {rs : List (UnaryRule σ)} {p q : Symbol} (hl : Leads p rs q)
    (hm : ∀ r ∈ rs, r ∈ properRules rules) (hn : (symbolsFrom p rs).Nodup)
    (hb : ∀ r ∈ rs, bestRuleScore rules r.parent r.child = r.score) :
    IsPath rules p q (symbolsFrom p rs) (total rs) := by
  refine ⟨rfl, ?_, hn, ?_, pathScore_symbolsFrom hl hb⟩
  · clear hm hn hb
    induction rs generalizing p with
    | nil => simp [symbolsFrom, leads_nil.mp hl]
    | cons r rs ih => simpa [symbolsFrom, List.getLast?_cons_cons] using ih hl.2
  · clear hn hb
    induction rs generalizing p with
    | nil => simp [symbolsFrom]
    | cons r rs ih =>
      obtain ⟨rfl, hl⟩ := hl
      obtain ⟨hr, hne⟩ := mem_properRules.mp (hm r (by simp))
      exact List.isChain_cons_cons.mpr ⟨⟨hne, r, hr, rfl, rfl⟩, ih hl fun q hq => hm q (by simp [hq])⟩

/-- A closure of rules of which no proper ones form a positive cycle. It is refused for the size of
a symbol only; the score of two different symbols is the greatest total of a chain of proper rules,
also among all chains when the other rules gain nothing, and its symbols are a path with this score. -/
theorem isGreatest_score (n : Nat) (rules : List (UnaryRule σ)) (hS : AreSymbols n rules)
    (hf : ∀ r ∈ rules, r.score ≠ Score.bottom) (hc : NoPositiveCycle (properRules rules)) :
    (∀ ends, ofRules? n rules ≠ .error (.cyclic ends)) ∧
    ((∀ r ∈ rules, isReachable r.parent = true) → ∃ c, ofRules? n rules = .ok c) ∧
    ∀ c, ofRules? n rules = .ok c → ∀ p q, p ≠ q →
      (chainTotals (properRules rules) p q = ∅ → c.score p q = Score.bottom ∧ c.chain? p q = none) ∧
      ((chainTotals (properRules rules) p q).Nonempty →
        IsGreatest (chainTotals (properRules rules) p q) (c.score p q) ∧
        c.score p q ≠ Score.bottom ∧
        ∃ path, c.chain? p q = some path ∧ IsPath rules p q path (c.score p q)) ∧
      (NoPositiveCycle rules → c.score p q ∈ upperBounds (chainTotals rules p q)) := by
  obtain ⟨c, -, hclosure⟩ := exists_lists hS hf hc
  refine ⟨fun ends => ?_, fun hr => exists_ofRules? hS hf hc hr, fun c h p q hpq => ?_⟩
  · rw [hclosure]
    split_ifs <;> simp
  have h := lists_of_ofRules? h
  refine ⟨fun hempty => ?_, fun hsome => ?_, fun hall => ?_⟩
  · rcases exists_chain hS hf hc h hpq with hnone | ⟨rs, hm, -, -, hl, -⟩
    · exact hnone
    · exact absurd (show total rs ∈ chainTotals (properRules rules) p q from ⟨rs, hm, hl, rfl⟩)
        (hempty ▸ Set.notMem_empty _)
  · have hupper : c.score p q ∈ upperBounds (chainTotals (properRules rules) p q) := by
      rintro _ ⟨rs, hm, hl, rfl⟩
      exact total_le_score hS hf hc h (Or.inl hpq) hm hl
    rcases exists_chain hS hf hc h hpq with ⟨hbot, -⟩ | ⟨rs, hm, hb, -, hl, hn, hpath, hscore⟩
    · obtain ⟨s, rs, hm, hl, rfl⟩ := hsome
      have hle := hupper ⟨rs, hm, hl, rfl⟩
      rw [hbot, le_bot_iff] at hle
      exact absurd hle (total_ne_bot fun r hr => hf r (mem_properRules.mp (hm r hr)).1)
    · refine ⟨⟨hscore ▸ ⟨rs, hm, hl, rfl⟩, hupper⟩, ?_, _, hpath, ?_⟩
      · rw [hscore]
        exact total_ne_bot fun r hr => hf r (mem_properRules.mp (hm r hr)).1
      · rw [hscore]
        exact isPath_symbolsFrom hl hm hn hb
  · rintro _ ⟨rs, hm, hl, rfl⟩
    exact total_le_score_of_noPositiveCycle hS hf hall h (Or.inl hpq) hm hl

end Laws

/-- Two symbols that lead to each other for nothing, and from one of them to a third. -/
def zeroCycle : List (UnaryRule ExactScore) :=
  [⟨0, 1, .value 0⟩, ⟨1, 0, .value 0⟩, ⟨1, 2, .value (-1)⟩]

theorem isGreatest_score_zeroCycle :
    AreSymbols 3 zeroCycle ∧ (∀ r ∈ zeroCycle, r.score ≠ Score.bottom) ∧
    NoPositiveCycle (properRules zeroCycle) ∧
    (∀ r ∈ zeroCycle, isReachable r.parent = true) ∧ NoPositiveCycle zeroCycle ∧
    (chainTotals (properRules zeroCycle) 0 2).Nonempty ∧
    ∃ c, ofRules? 3 zeroCycle = .ok c ∧
      IsGreatest (chainTotals (properRules zeroCycle) 0 2) (c.score 0 2) := by
  have hS : AreSymbols 3 zeroCycle := by simp [AreSymbols, zeroCycle]
  have hf : ∀ r ∈ zeroCycle, r.score ≠ Score.bottom := by decide
  have hc : NoPositiveCycle zeroCycle := noPositiveCycle_of_nonpos (by decide)
  have hr : ∀ r ∈ zeroCycle, isReachable r.parent = true := by decide
  have hsome : (chainTotals (properRules zeroCycle) 0 2).Nonempty :=
    ⟨_, [⟨0, 1, .value 0⟩, ⟨1, 2, .value (-1)⟩], by decide, by simp, rfl⟩
  obtain ⟨-, hok, hbest⟩ := isGreatest_score 3 zeroCycle hS hf hc.proper
  obtain ⟨c, h⟩ := hok hr
  exact ⟨hS, hf, hc.proper, hr, hc, hsome, c, h, ((hbest c h 0 2 (by decide)).2.1 hsome).1⟩

/-- A rule that gains something by staying where it is. -/
def positiveLoop : List (UnaryRule ExactScore) := [⟨0, 0, .value 1⟩, ⟨0, 1, .value (-1)⟩]

/-- Over rules that gain something by staying at a symbol, a closure does not hold the greatest total:
such rules are left out. -/
theorem not_isGreatest_positiveLoop :
    AreSymbols 2 positiveLoop ∧ (∀ r ∈ positiveLoop, r.score ≠ Score.bottom) ∧
    NoPositiveCycle (properRules positiveLoop) ∧
    ∃ c, ofRules? 2 positiveLoop = .ok c ∧
      ¬ IsGreatest (chainTotals positiveLoop 0 1) (c.score 0 1) := by
  have hS : AreSymbols 2 positiveLoop := by simp [AreSymbols, positiveLoop]
  have hf : ∀ r ∈ positiveLoop, r.score ≠ Score.bottom := by decide
  have hc : NoPositiveCycle (properRules positiveLoop) := noPositiveCycle_of_nonpos (by decide)
  obtain ⟨c, h, hclosure⟩ := exists_lists hS hf hc
  refine ⟨hS, hf, hc, c, ?_, fun hbest => ?_⟩
  · rw [hclosure, if_pos (isWithinReach_of_rules hS hf hc h (by decide))]
  have hzero : total positiveLoop = ExactScore.value 0 :=
    congrArg ExactScore.value (show (1 + (-1 + 0) : Rat) = 0 by norm_num)
  have hloop : ExactScore.value 0 ≤ c.score 0 1 :=
    hbest.2 ⟨positiveLoop, fun _ hr => hr, by simp [positiveLoop], hzero⟩
  rcases exists_chain hS hf hc h (p := 0) (q := 1) (by decide) with
    ⟨hbot, -⟩ | ⟨rs, hm, -, hne, hl, -, -, hscore⟩
  · rw [hbot] at hloop
    exact absurd hloop (by decide)
  · obtain ⟨r, rs, rfl⟩ := List.exists_cons_of_ne_nil hne
    obtain rfl : r = ⟨0, 1, .value (-1)⟩ := by simpa [positiveLoop, properRules] using hm r (by simp)
    have hrest : total rs ≤ 0 := hc 1 rs (fun r hr => hm r (by simp [hr])) hl.2
    have hstep : c.score 0 1 ≤ ExactScore.value (-1) := by
      rw [hscore, total_cons]
      simpa using add_le_add_right hrest (ExactScore.value (-1))
    exact absurd (hloop.trans hstep) (by decide)

end Constituency.Closure
