import Constituency.Proofs.Closure.Offers
import Mathlib.Data.Set.Insert

/-!
# Rounds of the closure

A round admits one more intermediate symbol. Seen as a matrix of scores, with the empty chain on the
diagonal (`reach`), a round takes in what can be reached over the new symbol (`reach_through`). The
invariant of the rounds (`Admitted`) says that every chain unfolds into rules without coming back to a
symbol, and that no detour over an admitted symbol is better than what has been found. Unfolding
follows the places where chains meet as they are now, so a chain that stays must keep its parts: a part
that got better would have made the whole better in the same round (`Unfolds.through`).
-/
namespace Constituency.BestChains

variable {σ : Type} [Score σ]

/-- The score of the best chain found so far between two symbols, the empty chain included. -/
def reach (b : BestChains σ) (x y : Symbol) : σ :=
  if x = y then Score.zero else ((b.get? (x, y)).map (·.score)).getD Score.bottom

/-- A chain comes apart into rules at the places where its parts meet, all of which are admitted. -/
inductive Unfolds [LawfulScore σ] (rules : List (UnaryRule σ)) (admitted : Set Symbol)
    (b : BestChains σ) : Symbol → Symbol → List (UnaryRule σ) → Prop
  | rule {p c : Symbol} {r : UnaryRule σ} (mem : r ∈ properRules rules) (upper : r.parent = p)
      (lower : r.child = c) (found : b.get? (p, c) = some ⟨r.score, none⟩) :
      Unfolds rules admitted b p c [r]
  | join {p m c : Symbol} {as bs : List (UnaryRule σ)} (mem : m ∈ admitted)
      (found : b.get? (p, c) = some ⟨total as + total bs, some m⟩)
      (above : Unfolds rules admitted b p m as) (below : Unfolds rules admitted b m c bs) :
      Unfolds rules admitted b p c (as ++ bs)

/-- What holds once some symbols have been admitted as intermediate ones. -/
structure Admitted [LawfulScore σ] (rules : List (UnaryRule σ)) (admitted : Set Symbol)
    (b : BestChains σ) : Prop where
  unfolds : ∀ p c e, b.get? (p, c) = some e →
    ∃ rs, Unfolds rules admitted b p c rs ∧ (symbolsFrom p rs).Nodup
  rule_le : ∀ r ∈ properRules rules, r.score ≤ b.reach r.parent r.child
  detour_le : ∀ m ∈ admitted, ∀ x y, b.reach x m + b.reach m y ≤ b.reach x y

section Laws

variable [LawfulScore σ] {rules : List (UnaryRule σ)} {admitted : Set Symbol} {b : BestChains σ}

@[simp] theorem reach_self (b : BestChains σ) (x : Symbol) : b.reach x x = 0 := by
  simp [reach, Score.zero_eq]

omit [LawfulScore σ] in
theorem reach_of_get? {p c : Symbol} {e : BestChain σ} (hne : p ≠ c)
    (h : b.get? (p, c) = some e) : b.reach p c = e.score := by
  simp [reach, hne, h]

theorem reach_eq_bot {p c : Symbol} (hne : p ≠ c) (h : b.get? (p, c) = none) : b.reach p c = ⊥ := by
  simp [reach, hne, h, Score.bottom_eq_bot]

namespace Unfolds

variable {p c : Symbol} {rs : List (UnaryRule σ)}

theorem get? (h : Unfolds rules admitted b p c rs) :
    ∃ meet, b.get? (p, c) = some ⟨total rs, meet⟩ := by
  cases h with
  | rule _ _ _ hf => exact ⟨none, by simpa using hf⟩
  | join _ hf _ _ => exact ⟨_, by simpa using hf⟩

theorem leads (h : Unfolds rules admitted b p c rs) : Leads p rs c := by
  induction h with
  | rule _ hp hc _ => exact ⟨hp, hc⟩
  | join _ _ _ _ ha hb => exact ha.append hb

theorem mem_rules (h : Unfolds rules admitted b p c rs) : ∀ r ∈ rs, r ∈ properRules rules := by
  induction h with
  | rule hm _ _ _ => simpa using hm
  | join _ _ _ _ ha hb => exact List.forall_mem_append.mpr ⟨ha, hb⟩

theorem ne_nil (h : Unfolds rules admitted b p c rs) : rs ≠ [] := by
  induction h with
  | rule => simp
  | join _ _ _ _ ha _ => simp [ha]

/-- All symbols of a chain but its ends are admitted. -/
theorem child_mem (h : Unfolds rules admitted b p c rs) :
    ∀ r ∈ rs, r.child ∈ admitted ∨ r.child = c := by
  induction h with
  | rule _ _ hc _ => simp [hc]
  | join hm _ _ _ ha hb =>
    intro r hr
    rcases List.mem_append.mp hr with hr | hr
    · rcases ha r hr with h | h
      · exact Or.inl h
      · exact Or.inl (h ▸ hm)
    · exact hb r hr

theorem mono {admitted' : Set Symbol} (hs : admitted ⊆ admitted')
    (h : Unfolds rules admitted b p c rs) : Unfolds rules admitted' b p c rs := by
  induction h with
  | rule hm hp hc hf => exact rule hm hp hc hf
  | join hm hf _ _ ha hb => exact join (hs hm) hf ha hb

/-- Only the best rule between two symbols stands in a chain. -/
theorem best (h : Unfolds rules admitted b p c rs) (hb : Admitted rules admitted b) :
    ∀ r ∈ rs, ∀ q ∈ rules, q.parent = r.parent → q.child = r.child → q.score ≤ r.score := by
  induction h with
  | @rule p c r hm hp hc hf =>
    intro r' hr' q hq hqp hqc
    obtain rfl : r' = r := by simpa using hr'
    have hne : r'.parent ≠ r'.child := (mem_properRules.mp hm).2
    have hle := hb.rule_le q (mem_properRules.mpr ⟨hq, by rwa [hqp, hqc]⟩)
    rw [hqp, hqc] at hle
    subst hp hc
    rwa [reach_of_get? hne hf] at hle
  | join _ _ _ _ ha hb' => exact List.forall_mem_append.mpr ⟨ha, hb'⟩

end Unfolds

namespace Admitted

/-- No chain leads from a symbol to itself. -/
theorem ne (h : Admitted rules admitted b) {p c : Symbol} {e : BestChain σ}
    (he : b.get? (p, c) = some e) : p ≠ c := by
  obtain ⟨rs, hrs, hnd⟩ := h.unfolds p c e he
  rintro rfl
  exact (List.nodup_cons.mp hnd).1 (hrs.leads.mem_of_ne_nil hrs.ne_nil)

theorem reach_eq (h : Admitted rules admitted b) {p c : Symbol} {e : BestChain σ}
    (he : b.get? (p, c) = some e) : b.reach p c = e.score :=
  reach_of_get? (h.ne he) he

theorem reach_eq_total (h : Admitted rules admitted b) {p c : Symbol} {rs : List (UnaryRule σ)}
    (hu : Unfolds rules admitted b p c rs) : b.reach p c = total rs := by
  obtain ⟨meet, hget⟩ := hu.get?
  exact h.reach_eq hget

theorem reach_ne_bot (h : Admitted rules admitted b) (hf : ∀ r ∈ rules, r.score ≠ ⊥)
    {p c : Symbol} {rs : List (UnaryRule σ)} (hu : Unfolds rules admitted b p c rs) :
    b.reach p c ≠ ⊥ := by
  rw [h.reach_eq_total hu]
  exact total_ne_bot fun r hr => hf r (mem_properRules.mp (hu.mem_rules r hr)).1

theorem exists_unfolds (h : Admitted rules admitted b) {x y : Symbol} (hne : x ≠ y)
    (hxy : b.reach x y ≠ ⊥) :
    ∃ rs, Unfolds rules admitted b x y rs ∧ (symbolsFrom x rs).Nodup := by
  cases he : b.get? (x, y) with
  | none => exact absurd (reach_eq_bot hne he) hxy
  | some e => exact h.unfolds x y e he

/-- Every score is the total of some chain of rules. -/
theorem exists_chain (h : Admitted rules admitted b) {x y : Symbol} (hxy : b.reach x y ≠ ⊥) :
    ∃ rs, (∀ r ∈ rs, r ∈ properRules rules) ∧ Leads x rs y ∧ total rs = b.reach x y := by
  by_cases hne : x = y
  · exact ⟨[], by simp, hne, by simp [hne]⟩
  · obtain ⟨rs, hrs, -⟩ := h.exists_unfolds hne hxy
    exact ⟨rs, hrs.mem_rules, hrs.leads, (h.reach_eq_total hrs).symm⟩

/-- Going somewhere and back gains nothing. -/
theorem cycle_le (h : Admitted rules admitted b) (hc : NoPositiveCycle (properRules rules))
    (x y : Symbol) : b.reach x y + b.reach y x ≤ 0 := by
  by_cases hxy : b.reach x y = ⊥
  · simp [hxy]
  by_cases hyx : b.reach y x = ⊥
  · simp [hyx]
  obtain ⟨as, ham, hal, hat⟩ := h.exists_chain hxy
  obtain ⟨bs, hbm, hbl, hbt⟩ := h.exists_chain hyx
  rw [← hat, ← hbt, ← total_append]
  exact hc x (as ++ bs) (List.forall_mem_append.mpr ⟨ham, hbm⟩) (hal.append hbl)

/-- No chain of rules over admitted symbols is better than what has been found. -/
theorem total_le_reach (h : Admitted rules admitted b) {p c : Symbol} {rs : List (UnaryRule σ)}
    (hm : ∀ r ∈ rs, r ∈ properRules rules) (hi : ∀ r ∈ rs, r.child ∈ admitted ∨ r.child = c)
    (hl : Leads p rs c) : total rs ≤ b.reach p c := by
  induction rs generalizing p with
  | nil => simp [leads_nil.mp hl]
  | cons r rs ih =>
    obtain ⟨rfl, hl⟩ := hl
    have hrs := ih (fun q hq => hm q (by simp [hq])) (fun q hq => hi q (by simp [hq])) hl
    have hr := h.rule_le r (hm r (by simp))
    calc total (r :: rs) ≤ b.reach r.parent r.child + b.reach r.child c := add_le_add hr hrs
      _ ≤ b.reach r.parent c := by
        rcases hi r (by simp) with hc | hc
        · exact h.detour_le r.child hc r.parent c
        · simp [hc]

/-- The scores after a round. -/
theorem get?_through_eq (h : Admitted rules admitted b) (hf : ∀ r ∈ rules, r.score ≠ ⊥)
    (m p c : Symbol) : (b.through m).get? (p, c) =
      if p ≠ c ∧ b.reach p c < b.reach p m + b.reach m c then
        some ⟨b.reach p m + b.reach m c, some m⟩
      else b.get? (p, c) := by
  rw [get?_through]
  cases hu : b.get? (p, m) with
  | none =>
    by_cases hpm : p = m
    · simp [hpm]
    · simp [reach_eq_bot hpm hu]
  | some upper =>
    have hpm := h.reach_eq hu
    cases hl : b.get? (m, c) with
    | none =>
      by_cases hmc : m = c
      · simp [hmc]
      · simp [reach_eq_bot hmc hl]
    | some lower =>
      have hmc := h.reach_eq hl
      by_cases hpc : p = c
      · simp [hpc]
      have hfin : b.reach p m + b.reach m c ≠ ⊥ := by
        obtain ⟨as, has, -⟩ := h.unfolds p m upper hu
        obtain ⟨bs, hbs, -⟩ := h.unfolds m c lower hl
        simp only [ne_eq, Score.add_eq_bot, not_or]
        exact ⟨h.reach_ne_bot hf has, h.reach_ne_bot hf hbs⟩
      simp only [Score.add_eq, ← hpm, ← hmc, ne_eq, hpc, not_false_eq_true, true_and]
      cases ho : b.get? (p, c) with
      | none =>
        simp [better, reach_eq_bot hpc ho, bot_lt_iff_ne_bot, hfin]
      | some old =>
        rw [h.reach_eq ho]
        by_cases hlt : old.score < b.reach p m + b.reach m c <;> simp [better, Score.lt_iff, hlt]

/-- A round takes in what can be reached over the new symbol. -/
theorem reach_through (h : Admitted rules admitted b) (hf : ∀ r ∈ rules, r.score ≠ ⊥)
    (hc : NoPositiveCycle (properRules rules)) (m x y : Symbol) :
    (b.through m).reach x y = max (b.reach x y) (b.reach x m + b.reach m y) := by
  by_cases hxy : x = y
  · subst hxy
    rw [reach_self, reach_self, max_eq_left (h.cycle_le hc x m)]
  by_cases hlt : b.reach x y < b.reach x m + b.reach m y
  · rw [max_eq_right hlt.le, reach_of_get? hxy
      ((h.get?_through_eq hf m x y).trans (if_pos ⟨hxy, hlt⟩))]
  · have hkeep := (h.get?_through_eq hf m x y).trans (if_neg fun hn => hlt hn.2)
    rw [max_eq_left (not_lt.mp hlt)]
    simp only [reach, hkeep]

end Admitted

/-- A chain that a round leaves alone still unfolds into the same rules: none of its parts has become
better, since the chain would have become better with it. -/
theorem Unfolds.through (h : Admitted rules admitted b) (hf : ∀ r ∈ rules, r.score ≠ ⊥)
    {p c m : Symbol} {rs : List (UnaryRule σ)} (hu : Unfolds rules admitted b p c rs)
    (hle : b.reach p m + b.reach m c ≤ b.reach p c) :
    Unfolds rules (insert m admitted) (b.through m) p c rs := by
  have keep {x y : Symbol} (hxy : b.reach x m + b.reach m y ≤ b.reach x y) :
      (b.through m).get? (x, y) = b.get? (x, y) :=
    (h.get?_through_eq hf m x y).trans (if_neg fun hn => not_lt.mpr hxy hn.2)
  induction hu with
  | rule hr hp hc hfound => exact rule hr hp hc ((keep hle).trans hfound)
  | @join p k c as bs hk hfound ha hb iha ihb =>
    have htotal : b.reach p c = b.reach p k + b.reach k c := by
      rw [h.reach_eq hfound, h.reach_eq_total ha, h.reach_eq_total hb]
    have hpk := h.reach_ne_bot hf ha
    have hkc := h.reach_ne_bot hf hb
    refine join (Set.mem_insert_of_mem m hk) ((keep hle).trans hfound) (iha ?_) (ihb ?_)
    · by_contra hlt
      have hgain := calc b.reach p c = b.reach p k + b.reach k c := htotal
        _ < b.reach p m + b.reach m k + b.reach k c :=
          Score.add_lt_add_right (not_le.mp hlt) hkc
        _ = b.reach p m + (b.reach m k + b.reach k c) := add_assoc _ _ _
        _ ≤ b.reach p m + b.reach m c := by gcongr; exact h.detour_le k hk m c
      exact not_lt.mpr hle hgain
    · by_contra hlt
      have hgain := calc b.reach p c = b.reach p k + b.reach k c := htotal
        _ < b.reach p k + (b.reach k m + b.reach m c) :=
          Score.add_lt_add_left (not_le.mp hlt) hpk
        _ = b.reach p k + b.reach k m + b.reach m c := (add_assoc _ _ _).symm
        _ ≤ b.reach p m + b.reach m c := by gcongr; exact h.detour_le k hk p m
      exact not_lt.mpr hle hgain

/-- Two chains that meet and make an improvement have no other symbol in common: leaving out the way
between its two occurrences would have been as good, and had been found before. -/
theorem Admitted.nodup_join (h : Admitted rules admitted b)
    (hc : NoPositiveCycle (properRules rules)) {p m c : Symbol} {as bs : List (UnaryRule σ)}
    (ha : Unfolds rules admitted b p m as) (hb : Unfolds rules admitted b m c bs)
    (hna : (symbolsFrom p as).Nodup) (hnb : (symbolsFrom m bs).Nodup)
    (hlt : b.reach p c < total as + total bs) : (symbolsFrom p (as ++ bs)).Nodup := by
  obtain ⟨hmb, hnb⟩ := List.nodup_cons.mp hnb
  have hsymbols : symbolsFrom p (as ++ bs) = symbolsFrom p as ++ bs.map (·.child) := by
    simp [symbolsFrom]
  rw [hsymbols, List.nodup_append]
  refine ⟨hna, hnb, fun q hqa q' hqb hqq => ?_⟩
  subst hqq
  obtain ⟨a₁, a₂, rfl, hpq, hqm⟩ := ha.leads.split hqa
  obtain ⟨b₁, b₂, rfl, hmq, hqc⟩ := hb.leads.split (List.mem_cons_of_mem m hqb)
  have hne : a₂ ≠ [] := by
    rintro rfl
    exact hmb (leads_nil.mp hqm ▸ hqb)
  have hm₁ : ∀ r ∈ a₁, r.child ≠ m := by
    intro r hr hrm
    have hnd := (List.nodup_cons.mp hna).2
    rw [List.map_append, List.nodup_append] at hnd
    exact hnd.2.2 _ (List.mem_map_of_mem hr) _ (hqm.mem_of_ne_nil hne) hrm
  have hshort : total (a₁ ++ b₂) ≤ b.reach p c := by
    refine h.total_le_reach ?_ ?_ (hpq.append hqc)
    · exact List.forall_mem_append.mpr ⟨(List.forall_mem_append.mp ha.mem_rules).1,
        (List.forall_mem_append.mp hb.mem_rules).2⟩
    · intro r hr
      rcases List.mem_append.mp hr with hr | hr
      · exact Or.inl ((ha.child_mem r (by simp [hr])).resolve_right (hm₁ r hr))
      · exact hb.child_mem r (by simp [hr])
  have hcycle : ∀ r ∈ a₂ ++ b₁, r ∈ properRules rules :=
    List.forall_mem_append.mpr ⟨(List.forall_mem_append.mp ha.mem_rules).2,
      (List.forall_mem_append.mp hb.mem_rules).1⟩
  have hcut := total_append_cycle_le hc hcycle (hqm.append hmq) a₁ b₂
  have hwhole : total (a₁ ++ (a₂ ++ b₁) ++ b₂) = total (a₁ ++ a₂) + total (b₁ ++ b₂) := by
    simp [add_assoc]
  exact not_lt.mpr ((hwhole ▸ hcut).trans hshort) hlt

/-- After a round every chain unfolds: an improvement meets at the new symbol. -/
theorem Admitted.unfolds_through (h : Admitted rules admitted b) (hf : ∀ r ∈ rules, r.score ≠ ⊥)
    (hc : NoPositiveCycle (properRules rules)) {m p c : Symbol} {e : BestChain σ}
    (he : (b.through m).get? (p, c) = some e) :
    ∃ rs, Unfolds rules (insert m admitted) (b.through m) p c rs ∧ (symbolsFrom p rs).Nodup := by
  have hget := h.get?_through_eq hf m p c
  rw [he] at hget
  split_ifs at hget with hup
  · obtain ⟨-, hlt⟩ := hup
    have hfin := (bot_le.trans_lt hlt).ne'
    simp only [ne_eq, Score.add_eq_bot, not_or] at hfin
    have hpm : p ≠ m := by
      rintro rfl
      simp at hlt
    have hmc : m ≠ c := by
      rintro rfl
      simp at hlt
    obtain ⟨as, ha, hna⟩ := h.exists_unfolds hpm hfin.1
    obtain ⟨bs, hb, hnb⟩ := h.exists_unfolds hmc hfin.2
    rw [h.reach_eq_total ha, h.reach_eq_total hb] at hlt hget
    refine ⟨as ++ bs, .join (Set.mem_insert m admitted) (he.trans hget) ?_ ?_,
      h.nodup_join hc ha hb hna hnb hlt⟩
    · exact ha.through h hf (by simp)
    · exact hb.through h hf (by simp)
  · obtain ⟨rs, hrs, hnd⟩ := h.unfolds p c e hget.symm
    have hle : b.reach p m + b.reach m c ≤ b.reach p c :=
      not_lt.mp fun hlt => hup ⟨h.ne hget.symm, hlt⟩
    exact ⟨rs, hrs.through h hf hle, hnd⟩

/-- After a round no detour over an admitted symbol is better: one that goes over the new symbol twice
would gain nothing on the way back to it. -/
theorem Admitted.detour_through (h : Admitted rules admitted b) (hf : ∀ r ∈ rules, r.score ≠ ⊥)
    (hc : NoPositiveCycle (properRules rules)) (m : Symbol) {k : Symbol} (hk : k ∈ insert m admitted)
    (x y : Symbol) :
    (b.through m).reach x k + (b.through m).reach k y ≤ (b.through m).reach x y := by
  simp only [h.reach_through hf hc]
  rcases Set.mem_insert_iff.mp hk with rfl | hk
  · simp
  have hxm := h.detour_le k hk x m
  have hmy := h.detour_le k hk m y
  rcases max_choice (b.reach x k) (b.reach x m + b.reach m k) with h₁ | h₁ <;>
    rcases max_choice (b.reach k y) (b.reach k m + b.reach m y) with h₂ | h₂ <;>
    rw [h₁, h₂]
  · exact (h.detour_le k hk x y).trans (le_max_left _ _)
  · refine le_trans ?_ (le_max_right _ _)
    rw [← add_assoc]
    gcongr
  · refine le_trans ?_ (le_max_right _ _)
    rw [add_assoc]
    gcongr
  · refine le_trans ?_ (le_max_right _ _)
    calc b.reach x m + b.reach m k + (b.reach k m + b.reach m y)
        = b.reach x m + (b.reach m k + b.reach k m) + b.reach m y := by simp only [add_assoc]
      _ ≤ b.reach x m + 0 + b.reach m y := by gcongr; exact h.cycle_le hc m k
      _ = b.reach x m + b.reach m y := by rw [add_zero]

/-- A round keeps the invariant, with one more symbol. -/
theorem Admitted.through (h : Admitted rules admitted b) (hf : ∀ r ∈ rules, r.score ≠ ⊥)
    (hc : NoPositiveCycle (properRules rules)) (m : Symbol) :
    Admitted rules (insert m admitted) (b.through m) where
  unfolds _ _ _ he := h.unfolds_through hf hc he
  rule_le r hr := by
    rw [h.reach_through hf hc]
    exact (h.rule_le r hr).trans (le_max_left _ _)
  detour_le _ hk x y := h.detour_through hf hc m hk x y

end Laws

end Constituency.BestChains
