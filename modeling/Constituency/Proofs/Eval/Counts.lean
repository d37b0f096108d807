import Constituency.Eval.Counts
import Constituency.Proofs.OrderedMap
import Mathlib.Algebra.BigOperators.Ring.Finset
import Mathlib.Algebra.Order.BigOperators.Group.Finset
import Mathlib.Algebra.Order.BigOperators.Group.List
import Mathlib.Algebra.Order.Group.Int

/-!
# Multisets that were counted up

The sizes of two multisets and of what they have in common are sums of numbers of occurrences over any keys
that include all of theirs (`size_eq_sum_count`, `overlap_eq_sum_min`), so they say whether the multisets
agree (`two_mul_overlap_eq_iff`), and they are those of the library's multisets (`card_toMultiset`,
`card_inter_toMultiset`). Multisets that are pooled under different names stay apart: sizes and
common parts are added up (`size_pool`, `overlap_pool`).
-/
namespace Constituency.Counts

open OrderedMap (IsCounted)

variable {κ : Type} [DecidableEq κ] {m n : Counts κ}

/-! ### Counting up -/

theorem isCounted_add (h : IsCounted m) (k : κ) {i : Int} (hi : 0 < i) : IsCounted (m.add k i) := by
  refine h.alter k ?_
  cases hget : OrderedMap.get? m k with
  | none => simpa using hi
  | some v =>
    have hv := h.pos k v hget
    simp only [Option.getD_some]
    omega

theorem isCounted_addAll {ι : Type} (h : IsCounted m) (f : ι → κ) (n : Counts ι) :
    IsCounted (m.addAll f n) := by
  refine List.foldlRecOn n.entries _ h fun m hm e _ => ?_
  split
  · next he => exact isCounted_add hm (f e.1) he
  · exact hm

theorem isCounted_ofList (l : List κ) : IsCounted (ofList l) :=
  List.foldlRecOn l _ OrderedMap.isCounted_empty fun _ hm k _ => isCounted_add hm k Int.one_pos

theorem mem_entries_iff (h : IsCounted m) {k : κ} {v : Int} :
    (k, v) ∈ m.entries ↔ 0 < v ∧ count m k = v := h.mem_entries

variable {k : κ}

theorem count_of_not_mem (hk : k ∉ OrderedMap.keys m) : count m k = 0 := by
  rw [count, OrderedMap.get?_of_not_mem hk, Option.getD_none]

theorem mem_keys_iff (h : IsCounted m) : k ∈ OrderedMap.keys m ↔ count m k ≠ 0 := h.mem_keys

theorem count_nonneg (h : IsCounted m) (k : κ) : 0 ≤ count m k := by
  rw [count]
  cases hget : OrderedMap.get? m k with
  | none => rfl
  | some v => exact (h.pos k v hget).le

/-- Two multisets are the same if and only if each key has the same number of occurrences in both. -/
theorem same_iff : m.same n = true ↔ ∀ k, count m k = count n k := by
  simp only [same, List.all_eq_true, beq_iff_eq, List.mem_append]
  refine ⟨fun h k => ?_, fun h k _ => h k⟩
  by_cases hk : k ∈ OrderedMap.keys m ∨ k ∈ OrderedMap.keys n
  · exact h k hk
  · rw [not_or] at hk
    rw [count_of_not_mem hk.1, count_of_not_mem hk.2]

instance : Decidable (∀ k, count m k = count n k) := decidable_of_iff _ same_iff

/-! ### Sums of occurrences -/

theorem size_eq_sum {κ : Type} (m : Counts κ) : m.size = (m.entries.map Prod.snd).sum := rfl

theorem overlap_eq_sum [Hashable κ] (m n : Counts κ) :
    m.overlap n = (m.entries.map fun e => max 0 (min e.2 (count n e.1))).sum := by
  rw [overlap_eq, List.sum, List.foldr_map]

theorem size_eq_sum_count (h : IsCounted m) {K : Finset κ} (hK : ∀ k, count m k ≠ 0 → k ∈ K) :
    m.size = ∑ k ∈ K, count m k := by
  rw [size_eq_sum, h.sum_entries hK fun _ => rfl]
  rfl

theorem overlap_eq_sum_min [Hashable κ] (hm : IsCounted m) (hn : IsCounted n) {K : Finset κ}
    (hK : ∀ k, count m k ≠ 0 → k ∈ K) : m.overlap n = ∑ k ∈ K, min (count m k) (count n k) := by
  rw [overlap_eq_sum, hm.sum_entries hK fun k => by have := count_nonneg hn k; dsimp only; omega]
  refine Finset.sum_congr rfl fun k _ => max_eq_right ?_
  exact le_min (count_nonneg hm k) (count_nonneg hn k)

/-- Keys that include all of two multisets. -/
theorem exists_keys (hm : IsCounted m) (hn : IsCounted n) :
    ∃ K : Finset κ, (∀ k, count m k ≠ 0 → k ∈ K) ∧ ∀ k, count n k ≠ 0 → k ∈ K := by
  refine ⟨(OrderedMap.keys m ++ OrderedMap.keys n).toFinset, fun k hk => ?_, fun k hk => ?_⟩
  · simp [(mem_keys_iff hm).mpr hk]
  · simp [(mem_keys_iff hn).mpr hk]

theorem overlap_bounds [Hashable κ] (hm : IsCounted m) (hn : IsCounted n) :
    0 ≤ m.overlap n ∧ m.overlap n ≤ m.size ∧ m.overlap n ≤ n.size := by
  obtain ⟨K, hK, hK'⟩ := exists_keys hm hn
  rw [overlap_eq_sum_min hm hn hK, size_eq_sum_count hm hK, size_eq_sum_count hn hK']
  refine ⟨Finset.sum_nonneg fun k _ => ?_, Finset.sum_le_sum fun k _ => min_le_left _ _,
    Finset.sum_le_sum fun k _ => min_le_right _ _⟩
  exact le_min (count_nonneg hm k) (count_nonneg hn k)

/-- Two multisets agree if and only if all of both is in common. -/
theorem two_mul_overlap_eq_iff [Hashable κ] (hm : IsCounted m) (hn : IsCounted n) :
    2 * m.overlap n = m.size + n.size ↔ ∀ k, count m k = count n k := by
  obtain ⟨K, hK, hK'⟩ := exists_keys hm hn
  -- each key adds the distance between its two numbers
  have hdiff : m.size + n.size - 2 * m.overlap n =
      ∑ k ∈ K, (count m k + count n k - 2 * min (count m k) (count n k)) := by
    rw [overlap_eq_sum_min hm hn hK, size_eq_sum_count hm hK, size_eq_sum_count hn hK',
      Finset.sum_sub_distrib, Finset.sum_add_distrib, Finset.mul_sum]
  have hzero : m.size + n.size - 2 * m.overlap n = 0 ↔
      ∀ k ∈ K, count m k + count n k - 2 * min (count m k) (count n k) = 0 := by
    rw [hdiff]
    exact Finset.sum_eq_zero_iff_of_nonneg fun k _ => by omega
  constructor
  · intro h k
    by_cases hk : k ∈ K
    · have := hzero.mp (by omega) k hk
      omega
    · rw [not_not.mp (mt (hK k) hk), not_not.mp (mt (hK' k) hk)]
  · intro h
    have := hzero.mpr fun k _ => by rw [h k, min_self]; omega
    omega

/-- A multiset without occurrences has no keys. -/
theorem isEmpty_iff (h : IsCounted m) : m.isEmpty = true ↔ m.size = 0 := by
  rw [isEmpty, List.isEmpty_iff]
  constructor
  · intro hnil
    rw [size_eq_sum, hnil]
    rfl
  · intro hsize
    by_contra hne
    have hpos : 0 < (m.entries.map Prod.snd).sum := by
      refine List.sum_pos _ (fun v hv => ?_) (by simpa using hne)
      obtain ⟨e, he, rfl⟩ := List.mem_map.mp hv
      exact ((mem_entries_iff h).mp he).1
    rw [← size_eq_sum, hsize] at hpos
    exact absurd hpos (lt_irrefl 0)

/-! ### The multiset of a table -/

/-- The multiset in which every key stands as often as its number says. -/
def toMultiset {κ : Type} (m : Counts κ) : Multiset κ :=
  (m.entries.map fun e => Multiset.replicate e.2.toNat e.1).sum

theorem count_toMultiset (h : IsCounted m) (k : κ) : (m.toMultiset.count k : Int) = count m k := by
  have hentries : m.toMultiset.count k =
      (m.entries.map fun e => if e.1 = k then e.2.toNat else 0).sum := by
    rw [toMultiset, ← Multiset.coe_countAddMonoidHom, map_list_sum, List.map_map]
    refine congrArg List.sum (List.map_congr_left fun e _ => ?_)
    exact Multiset.count_replicate k e.1 e.2.toNat
  have hkeys : ∀ x, count m x ≠ 0 → x ∈ insert k (OrderedMap.keys m).toFinset := by
    intro x hx
    simp [(mem_keys_iff h).mpr hx]
  rw [hentries, h.sum_entries hkeys fun x => by simp, Finset.sum_ite_eq',
    if_pos (Finset.mem_insert_self k _)]
  exact Int.toNat_of_nonneg (count_nonneg h k)

theorem mem_toMultiset (h : IsCounted m) {k : κ} : k ∈ m.toMultiset ↔ count m k ≠ 0 := by
  rw [← Multiset.count_ne_zero, ← count_toMultiset h, Nat.cast_ne_zero]

theorem card_toMultiset (h : IsCounted m) : (m.toMultiset.card : Int) = m.size := by
  have hkeys : ∀ k, count m k ≠ 0 → k ∈ m.toMultiset.toFinset := fun k hk =>
    Multiset.mem_toFinset.mpr ((mem_toMultiset h).mpr hk)
  rw [size_eq_sum_count h hkeys, ← Multiset.toFinset_sum_count_eq, Nat.cast_sum]
  exact Finset.sum_congr rfl fun k _ => count_toMultiset h k

/-- What two tables have in common is the intersection of their multisets. -/
theorem card_inter_toMultiset [Hashable κ] (hm : IsCounted m) (hn : IsCounted n) :
    ((m.toMultiset ∩ n.toMultiset).card : Int) = m.overlap n := by
  have hkeys : ∀ k, count m k ≠ 0 → k ∈ m.toMultiset.toFinset := fun k hk =>
    Multiset.mem_toFinset.mpr ((mem_toMultiset hm).mpr hk)
  have hinter : ∀ k ∈ m.toMultiset ∩ n.toMultiset, k ∈ m.toMultiset.toFinset := fun k hk =>
    Multiset.mem_toFinset.mpr (Multiset.mem_inter.mp hk).1
  rw [overlap_eq_sum_min hm hn hkeys, ← Multiset.sum_count_eq_card hinter, Nat.cast_sum]
  refine Finset.sum_congr rfl fun k _ => ?_
  rw [Multiset.count_inter, ← count_toMultiset hm, ← count_toMultiset hn]
  omega

theorem overlap_comm [Hashable κ] (hm : IsCounted m) (hn : IsCounted n) : m.overlap n = n.overlap m := by
  rw [← card_inter_toMultiset hm hn, ← card_inter_toMultiset hn hm, Multiset.inter_comm]

theorem toMultiset_inj (hm : IsCounted m) (hn : IsCounted n) :
    m.toMultiset = n.toMultiset ↔ ∀ k, count m k = count n k := by
  rw [Multiset.ext]
  refine forall_congr' fun k => ?_
  rw [← count_toMultiset hm, ← count_toMultiset hn, Nat.cast_inj]

theorem toMultiset_add (h : IsCounted m) (k : κ) : (m.add k 1).toMultiset = k ::ₘ m.toMultiset := by
  ext x
  have hx := count_toMultiset (isCounted_add h k Int.one_pos) x
  rw [count_add, ← count_toMultiset h] at hx
  rw [Multiset.count_cons]
  by_cases hk : k = x
  · rw [if_pos hk] at hx
    rw [if_pos hk.symm]
    omega
  · rw [if_neg hk] at hx
    rw [if_neg (Ne.symm hk)]
    omega

theorem toMultiset_ofList (l : List κ) : (ofList l).toMultiset = l := by
  induction l using List.reverseRecOn with
  | nil => rfl
  | append_singleton l k ih =>
    have hstep : ofList (l ++ [k]) = (ofList l).add k 1 := by
      rw [ofList, List.foldl_append]
      rfl
    rw [hstep, toMultiset_add (isCounted_ofList l), ih, ← Multiset.coe_add, Multiset.coe_singleton,
      add_comm, Multiset.singleton_add]

/-! ### Pooling -/

section Pool

variable {α ι : Type} {name : α → ι} {f : α → Counts κ} {l : List α}

/-- The multisets of the items of a list together, each under the name of its item. -/
def pool {κ : Type} (name : α → ι) (f : α → Counts κ) (l : List α) : Counts (ι × κ) :=
  ⟨l.flatMap fun a => (f a).entries.map fun e => ((name a, e.1), e.2)⟩

theorem mem_entries_pool {κ : Type} {f : α → Counts κ} {i : ι} {k : κ} {v : Int} :
    ((i, k), v) ∈ (pool name f l).entries ↔ ∃ a ∈ l, name a = i ∧ (k, v) ∈ (f a).entries := by
  simp only [pool, List.mem_flatMap, List.mem_map, Prod.mk.injEq]
  refine exists_congr fun a => and_congr_right fun _ => ?_
  constructor
  · rintro ⟨⟨k, v⟩, he, ⟨rfl, rfl⟩, rfl⟩
    exact ⟨rfl, he⟩
  · rintro ⟨rfl, he⟩
    exact ⟨(k, v), he, ⟨rfl, rfl⟩, rfl⟩

theorem pool_concat {κ : Type} (name : α → ι) (f : α → Counts κ) (l : List α) (a : α) :
    pool name f (l ++ [a]) =
      ⟨(pool name f l).entries ++ (f a).entries.map fun e => ((name a, e.1), e.2)⟩ := by
  simp [pool]

theorem sum_entries_pool {κ : Type} (name : α → ι) (f : α → Counts κ) (l : List α)
    (g : (ι × κ) × Int → Int) :
    ((pool name f l).entries.map g).sum =
      (l.map fun a => ((f a).entries.map fun e => g ((name a, e.1), e.2)).sum).sum := by
  induction l with
  | nil => rfl
  | cons a l ih =>
    have hcons : (pool name f (a :: l)).entries =
        ((f a).entries.map fun e => ((name a, e.1), e.2)) ++ (pool name f l).entries := rfl
    rw [hcons, List.map_append, List.sum_append, ih, List.map_map, List.map_cons, List.sum_cons]
    rfl

theorem size_pool {κ : Type} (name : α → ι) (f : α → Counts κ) (l : List α) :
    (pool name f l).size = (l.map fun a => (f a).size).sum :=
  sum_entries_pool name f l Prod.snd

variable [DecidableEq ι]

/-- Under keys that are new, the entries of another multiset go to the end. -/
theorem addAll_of_fresh {m : Counts κ} {n : Counts ι} {g : ι → κ} (hg : Function.Injective g)
    (hn : IsCounted n) (hfresh : ∀ i ∈ OrderedMap.keys n, g i ∉ OrderedMap.keys m) :
    m.addAll g n = ⟨m.entries ++ n.entries.map fun e => (g e.1, e.2)⟩ := by
  have hpos : ∀ e ∈ n.entries, 0 < e.2 := fun e he => ((mem_entries_iff hn).mp he).1
  have hnodup := hn.nodup
  clear hn
  obtain ⟨es⟩ := n
  simp only [addAll, OrderedMap.keys] at hnodup hfresh hpos ⊢
  induction es generalizing m with
  | nil => simp
  | cons e es ih =>
    rw [List.map_cons, List.nodup_cons] at hnodup
    rw [List.map_cons, List.forall_mem_cons] at hfresh
    rw [List.forall_mem_cons] at hpos
    -- the first entry is new, and the others stay new beside it
    have hadd : m.add (g e.1) e.2 = ⟨m.entries ++ [(g e.1, e.2)]⟩ := by
      rw [add, OrderedMap.alter, OrderedMap.put_of_not_mem hfresh.1]
      simp
    have hrest : ∀ i ∈ es.map Prod.fst, g i ∉ (m.entries ++ [(g e.1, e.2)]).map Prod.fst := by
      intro i hi
      rw [List.map_append, List.mem_append, List.map_singleton, List.mem_singleton, not_or]
      exact ⟨hfresh.2 i hi, fun heq => hnodup.1 (hg heq ▸ hi)⟩
    rw [List.foldl_cons, if_pos hpos.1, hadd, ih hrest hpos.2 hnodup.2]
    simp

/-- A multiset is pooled with others under a name of its own. -/
theorem addAll_pool {a : α} (ha : name a ∉ l.map name) (hf : IsCounted (f a)) :
    (pool name f l).addAll (fun k => (name a, k)) (f a) = pool name f (l ++ [a]) := by
  rw [pool_concat]
  refine addAll_of_fresh (fun k k' h => (Prod.mk.inj h).2) hf fun k _ hkeys => ?_
  obtain ⟨⟨_, v⟩, he, rfl⟩ := List.mem_map.mp hkeys
  obtain ⟨a', ha', hname, -⟩ := mem_entries_pool.mp he
  exact ha (List.mem_map.mpr ⟨a', ha', hname⟩)

theorem isCounted_pool (hl : (l.map name).Nodup) (hf : ∀ a ∈ l, IsCounted (f a)) :
    IsCounted (pool name f l) := by
  induction l using List.reverseRecOn with
  | nil => exact OrderedMap.isCounted_empty
  | append_singleton l a ih =>
    rw [List.map_append, List.map_singleton, ← List.concat_eq_append, List.nodup_concat] at hl
    rw [List.forall_mem_append, List.forall_mem_singleton] at hf
    rw [← addAll_pool hl.1 hf.2]
    exact isCounted_addAll (ih hl.2 hf.1) _ _

/-- Under its name, each multiset keeps its numbers of occurrences. -/
theorem count_pool (hl : (l.map name).Nodup) (hf : ∀ a ∈ l, IsCounted (f a)) {a : α} (ha : a ∈ l)
    (k : κ) : count (pool name f l) (name a, k) = count (f a) k := by
  have hentries (v : Int) : ((name a, k), v) ∈ (pool name f l).entries ↔ (k, v) ∈ (f a).entries := by
    rw [mem_entries_pool]
    constructor
    · rintro ⟨a', ha', hname, he⟩
      exact List.inj_on_of_nodup_map hl ha' ha hname ▸ he
    · exact fun he => ⟨a, ha, rfl, he⟩
  have hget : OrderedMap.get? (pool name f l) (name a, k) = OrderedMap.get? (f a) k := by
    ext v
    rw [← OrderedMap.mem_entries (isCounted_pool hl hf).nodup, hentries,
      OrderedMap.mem_entries (hf a ha).nodup]
  rw [count, hget, count]

/-- Pooled multisets agree if and only if those of each item do. -/
theorem forall_count_pool {g : α → Counts κ} (hl : (l.map name).Nodup) (hf : ∀ a ∈ l, IsCounted (f a))
    (hg : ∀ a ∈ l, IsCounted (g a)) :
    (∀ x, count (pool name f l) x = count (pool name g l) x) ↔
      ∀ a ∈ l, ∀ k, count (f a) k = count (g a) k := by
  have hname {f : α → Counts κ} (hf : ∀ a ∈ l, IsCounted (f a)) {i : ι} {k : κ}
      (hi : i ∉ l.map name) : count (pool name f l) (i, k) = 0 := by
    by_contra hcount
    obtain ⟨⟨_, v⟩, he, rfl⟩ := List.mem_map.mp ((mem_keys_iff (isCounted_pool hl hf)).mpr hcount)
    obtain ⟨a, ha, hname, -⟩ := mem_entries_pool.mp he
    exact hi (List.mem_map.mpr ⟨a, ha, hname⟩)
  constructor
  · intro h a ha k
    rw [← count_pool hl hf ha, ← count_pool hl hg ha, h]
  · rintro h ⟨i, k⟩
    by_cases hi : i ∈ l.map name
    · obtain ⟨a, ha, rfl⟩ := List.mem_map.mp hi
      rw [count_pool hl hf ha, count_pool hl hg ha, h a ha]
    · rw [hname hf hi, hname hg hi]

theorem overlap_pool [Hashable ι] [Hashable κ] {g : α → Counts κ} (hl : (l.map name).Nodup)
    (hg : ∀ a ∈ l, IsCounted (g a)) :
    (pool name f l).overlap (pool name g l) = (l.map fun a => (f a).overlap (g a)).sum := by
  rw [overlap_eq_sum, sum_entries_pool]
  refine congrArg List.sum (List.map_congr_left fun a ha => ?_)
  simp only [overlap_eq_sum, count_pool hl hg ha]

end Pool

end Constituency.Counts
