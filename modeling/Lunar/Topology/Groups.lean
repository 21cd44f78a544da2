import Lunar.Helpers
import Lunar.Topology
import Lunar.Library.Scan
import Lunar.Library.Text

namespace Lunar

-- What the keys of read_topology stand for: the cache of one level that cpus share.
inductive CacheGroup where
  | none
  | byId (level id : Int)
  | byList (level : Int) (sharedCpuList : String)
deriving DecidableEq, Repr

def levelGroup (sysfs : Sysfs) (cpu : Nat) (level : Int) : Option CacheGroup :=
  (findCacheLevelDir sysfs cpu level).bind fun indexDir =>
    match indexDir.id with
    | some id => some (.byId level id)
    | none => indexDir.sharedCpuList.map (.byList level)

-- L3, else L2, else none
def cacheGroup (sysfs : Sysfs) (cpu : Nat) : CacheGroup :=
  ((levelGroup sysfs cpu 3).or (levelGroup sysfs cpu 2)).getD .none

def packageId (sysfs : Sysfs) (cpu : Nat) : Int := (sysfs.physicalPackageId cpu).getD 0

def SameLlc (sysfs : Sysfs) (a b : Nat) : Prop :=
  packageId sysfs a = packageId sysfs b ∧ cacheGroup sysfs a = cacheGroup sysfs b

instance (sysfs : Sysfs) (a b : Nat) : Decidable (SameLlc sysfs a b) :=
  inferInstanceAs (Decidable (_ ∧ _))

def CacheGroup.key : CacheGroup → String
  | .none => "nocache"
  | .byId level id => "l" ++ toString level ++ ":id:" ++ toString id
  | .byList level shared => "l" ++ toString level ++ ":shared:" ++ shared

theorem cacheGroupKey_eq (sysfs : Sysfs) (cpu : Nat) (level : Int) :
    cacheGroupKey sysfs cpu level = (levelGroup sysfs cpu level).map CacheGroup.key := by
  unfold cacheGroupKey levelGroup
  cases findCacheLevelDir sysfs cpu level with
  | none => rfl
  | some indexDir =>
      cases hid : indexDir.id with
      | some id => simp [hid, CacheGroup.key]
      | none =>
          cases hshared : indexDir.sharedCpuList with
          | none => simp [hid, hshared]
          | some shared => simp [hid, hshared, CacheGroup.key]

theorem fullKey_eq (sysfs : Sysfs) (cpu : Nat) :
    fullKey sysfs cpu = "p" ++ toString (packageId sysfs cpu) ++ ":" ++ (cacheGroup sysfs cpu).key := by
  unfold fullKey cacheGroup
  rw [cacheGroupKey_eq, cacheGroupKey_eq]
  cases levelGroup sysfs cpu 3 with
  | some group => rfl
  | none =>
      cases levelGroup sysfs cpu 2 with
      | some group => rfl
      | none => rfl

theorem CacheGroup.key_toList : ∀ g : CacheGroup, g.key.toList =
    match g with
    | .none => "nocache".toList
    | .byId level id =>
        'l' :: ((toString level).toList ++ ':' :: ("id:".toList ++ (toString id).toList))
    | .byList level shared =>
        'l' :: ((toString level).toList ++ ':' :: ("shared:".toList ++ shared.toList))
  | .none => rfl
  | .byId level id => by simp [CacheGroup.key]
  | .byList level shared => by simp [CacheGroup.key]

theorem CacheGroup.key_inj {g g' : CacheGroup} (h : g.key = g'.key) : g = g' := by
  have hkey := congrArg String.toList h
  rw [key_toList, key_toList] at hkey
  -- The level ends at the first colon.
  have hlevel {level level' : Int} {r r' : List Char}
      (h : 'l' :: ((toString level).toList ++ ':' :: r) = 'l' :: ((toString level').toList ++ ':' :: r')) :
      level = level' ∧ r = r' := by
    obtain ⟨hl, hr⟩ := Text.append_cons_inj (Text.colon_notMem_toString level)
      (Text.colon_notMem_toString level') (List.cons.inj h).2
    exact ⟨Text.toString_inj hl, hr⟩
  cases g with
  | none =>
      cases g' with
      | none => rfl
      | byId level id => simp at hkey
      | byList level shared => simp at hkey
  | byId level id =>
      cases g' with
      | none => simp at hkey
      | byId level' id' =>
          obtain ⟨rfl, hid⟩ := hlevel hkey
          rw [Text.toString_inj (List.append_cancel_left hid)]
      | byList level' shared' => simpa using (hlevel hkey).2
  | byList level shared =>
      cases g' with
      | none => simp at hkey
      | byId level' id' => simpa using (hlevel hkey).2
      | byList level' shared' =>
          obtain ⟨rfl, hshared⟩ := hlevel hkey
          rw [String.toList_inj.mp (List.append_cancel_left hshared)]

theorem fullKey_inj {sysfs : Sysfs} {a b : Nat} :
    fullKey sysfs a = fullKey sysfs b ↔ SameLlc sysfs a b := by
  have htext (cpu : Nat) : (fullKey sysfs cpu).toList = 'p' :: ((toString (packageId sysfs cpu)).toList ++
      ':' :: (cacheGroup sysfs cpu).key.toList) := by simp [fullKey_eq]
  constructor
  · intro h
    have hkey := congrArg String.toList h
    rw [htext, htext] at hkey
    obtain ⟨hpackage, hgroup⟩ := Text.append_cons_inj (Text.colon_notMem_toString _)
      (Text.colon_notMem_toString _) (List.cons.inj hkey).2
    exact ⟨Text.toString_inj hpackage, CacheGroup.key_inj (String.toList_inj.mp hgroup)⟩
  · rintro ⟨hpackage, hgroup⟩
    rw [fullKey_eq, fullKey_eq, hpackage, hgroup]

-- setup_lunar_topology with its writes to rodata one by one. The result comes first.
def setupSkelRodata (sysfs : Sysfs) (rodata : Rodata) : Bool × Rodata :=
  match readTopology sysfs with
  | .error _ => (false, rodata)
  | .ok topo =>
      if topo.nrCpuIds > MAX_CPUS then (false, rodata)
      else if topo.nrLlcs = 0 then (false, rodata)
      else
        (true, (List.range topo.nrCpuIds).foldl (fun rodata cpu =>
          { rodata with
            cpuToLlc := Function.update rodata.cpuToLlc cpu (topo.cpuToLlc cpu)
            cpuOnline := Function.update rodata.cpuOnline cpu (topo.cpuOnline cpu) })
          { rodata with nrLlcs := topo.nrLlcs })

theorem writeTables_eq (topo : Topology) (rodata : Rodata) (n : Nat) :
    (List.range n).foldl (fun rodata cpu =>
      { rodata with
        cpuToLlc := Function.update rodata.cpuToLlc cpu (topo.cpuToLlc cpu)
        cpuOnline := Function.update rodata.cpuOnline cpu (topo.cpuOnline cpu) }) rodata =
    { rodata with
      cpuToLlc := fun cpu => if cpu < n then topo.cpuToLlc cpu else rodata.cpuToLlc cpu
      cpuOnline := fun cpu => if cpu < n then topo.cpuOnline cpu else rodata.cpuOnline cpu } := by
  induction n with
  | zero => simp
  | succ n ih =>
      rw [List.range_succ, List.foldl_append, ih]
      simp only [List.foldl_cons, List.foldl_nil, Rodata.mk.injEq, true_and]
      constructor
      all_goals
        funext cpu
        rw [Function.update_apply]
        split_ifs
        all_goals first | rfl | (subst_vars; rfl) | omega

theorem setupSkelRodata_eq (sysfs : Sysfs) (rodata : Rodata) : setupSkelRodata sysfs rodata =
    match setupLunarTopology sysfs rodata with
    | .ok tables => (true, tables)
    | .error _ => (false, rodata) := by
  unfold setupSkelRodata setupLunarTopology
  cases readTopology sysfs with
  | error e => rfl
  | ok topo =>
      dsimp only
      split_ifs
      · rfl
      · rfl
      · rw [writeTables_eq]

private theorem foldl_max_spec (l : List Nat) (first : Nat) :
    first ≤ l.foldl max first ∧ (∀ a ∈ l, a ≤ l.foldl max first) ∧
      (l.foldl max first = first ∨ l.foldl max first ∈ l) := by
  induction l generalizing first with
  | nil => simp
  | cons b rest ih =>
      obtain ⟨hfirst, hall, hfrom⟩ := ih (max first b)
      rw [List.foldl_cons]
      refine ⟨Nat.le_trans (Nat.le_max_left _ _) hfirst, ?_, ?_⟩
      · intro a ha
        rcases List.mem_cons.mp ha with rfl | ha
        · exact Nat.le_trans (Nat.le_max_right _ _) hfirst
        · exact hall a ha
      · rcases hfrom with h | h
        · rw [h]
          rcases Nat.le_total first b with hle | hle
          · exact Or.inr (by simp [Nat.max_eq_right hle])
          · exact Or.inl (Nat.max_eq_left hle)
        · exact Or.inr (List.mem_cons_of_mem b h)

-- The ids the highest is taken from.
def idSource (sysfs : Sysfs) (online : List Nat) : List Nat :=
  match sysfs.possible with
  | none | some [] => online
  | some possible => possible

theorem mem_idSource {sysfs : Sysfs} {online : List Nat} {cpu : Nat} :
    cpu ∈ idSource sysfs online ++ online ↔ cpu ∈ online ++ sysfs.possible.getD [] := by
  unfold idSource
  split
  · rename_i h
    simp [h]
  · rename_i h
    simp [h]
  · rename_i possible h
    simp [h, or_comm]

-- What read_topology finds out.
structure TopologyRead (sysfs : Sysfs) (online : List Nat) (topo : Topology) : Prop where
  ids : ∀ cpu ∈ online ++ sysfs.possible.getD [], cpu < topo.nrCpuIds
  nrLlcs : topo.nrLlcs = (FirstSeen.order (online.map (fullKey sysfs))).length
  onlineIff : ∀ cpu, topo.cpuOnline cpu ↔ cpu ∈ online
  llc : ∀ cpu ∈ online,
    topo.cpuToLlc cpu = (FirstSeen.order (online.map (fullKey sysfs))).idxOf (fullKey sysfs cpu)

theorem readTopology_spec {sysfs : Sysfs} {online : List Nat} (honline : sysfs.online = some online)
    (hne : online ≠ []) (hids : ∀ cpu ∈ online ++ sysfs.possible.getD [], cpu < 2 ^ 32 - 1) :
    ∃ topo, readTopology sysfs = .ok topo ∧ TopologyRead sysfs online topo := by
  have hmax : online.foldl max ((idSource sysfs online).foldl max 0) =
      (idSource sysfs online ++ online).foldl max 0 := List.foldl_append.symm
  obtain ⟨-, hle, hfrom⟩ := foldl_max_spec (idSource sysfs online ++ online) 0
  generalize hid : (idSource sysfs online ++ online).foldl max 0 = maxCpuId at hmax hle hfrom
  have hlt : maxCpuId < 2 ^ 32 - 1 := by
    rcases hfrom with h | h
    · rw [h]
      decide
    · exact hids _ (mem_idSource.mp h)
  have hnone : ReadSoFar sysfs [] ([], ⟨(maxCpuId + 1) % 2 ^ 32, 0, fun _ => 0, fun _ => false⟩) :=
    ⟨rfl, by simp, by simp⟩
  obtain ⟨⟨hgroups, hon, hllc⟩, hnr⟩ := readSoFar_foldl hnone online
  generalize hstate : online.foldl (readCpu sysfs)
    ([], ⟨(maxCpuId + 1) % 2 ^ 32, 0, fun _ => 0, fun _ => false⟩) = state at hgroups hon hllc hnr
  have hresult : readTopology sysfs = .ok { state.2 with nrLlcs := state.1.length } := by
    rw [← hstate, ← hmax]
    unfold readTopology
    rw [honline]
    cases online with
    | nil => exact absurd rfl hne
    | cons cpu rest => rfl
  refine ⟨_, hresult, fun cpu hcpu => ?_, ?_, hon, hllc⟩
  · have hcpu := hle cpu (mem_idSource.mpr hcpu)
    have hnr : state.2.nrCpuIds = maxCpuId + 1 := hnr.trans (Nat.mod_eq_of_lt (by omega))
    change cpu < state.2.nrCpuIds
    omega
  · rw [hgroups]
    simp

-- The place of the first online cpu that shares the LLC of cpu.
def firstOfLlc (sysfs : Sysfs) (online : List Nat) (cpu : Nat) : Nat :=
  online.findIdx fun other => decide (SameLlc sysfs other cpu)

theorem firstOfLlc_eq (sysfs : Sysfs) (online : List Nat) (cpu : Nat) :
    (online.map (fullKey sysfs)).idxOf (fullKey sysfs cpu) = firstOfLlc sysfs online cpu := by
  unfold List.idxOf firstOfLlc
  rw [List.findIdx_map]
  congr 1
  funext other
  rw [Bool.eq_iff_iff, Function.comp_apply, beq_iff_eq, decide_eq_true_eq]
  exact fullKey_inj

-- The tables of rodata, as the program reads them.
structure TablesOk (sysfs : Sysfs) (online : List Nat) (topo : Topology) (m : Machine) : Prop where
  ids : ∀ cpu ∈ online ++ sysfs.possible.getD [], cpu < topo.nrCpuIds
  nrCpuIds : topo.nrCpuIds ≤ MAX_CPUS
  onlineIff : ∀ cpu < MAX_CPUS, cpuIsOnline m cpu ↔ cpu ∈ online
  sameLlc : ∀ a ∈ online, ∀ b ∈ online, cpuLlcId m a = cpuLlcId m b ↔ SameLlc sysfs a b
  llcs : ∀ llc, llc < m.nrLlcs ↔ ∃ cpu ∈ online, cpuLlcId m cpu = llc
  llcOrder : ∀ a ∈ online, ∀ b ∈ online,
    cpuLlcId m a < cpuLlcId m b ↔ firstOfLlc sysfs online a < firstOfLlc sysfs online b
  single : m.nrLlcs = 1 ↔ ∀ a ∈ online, ∀ b ∈ online, SameLlc sysfs a b

theorem TopologyRead.tablesOk {sysfs : Sysfs} {online : List Nat} {topo : Topology} {m : Machine}
    (h : TopologyRead sysfs online topo) (hne : online ≠ []) (hmax : topo.nrCpuIds ≤ MAX_CPUS)
    (hnr : m.nrLlcs = topo.nrLlcs)
    (hllc : ∀ cpu, m.cpuToLlc cpu = if cpu < topo.nrCpuIds then topo.cpuToLlc cpu else 0)
    (honline : ∀ cpu, m.cpuOnline cpu = if cpu < topo.nrCpuIds then topo.cpuOnline cpu else false) :
    TablesOk sysfs online topo m := by
  have hmask {cpu : Nat} (hcpu : cpu < MAX_CPUS) : cpu &&& (MAX_CPUS - 1) = cpu :=
    (Nat.and_two_pow_sub_one_eq_mod cpu 9).trans (Nat.mod_eq_of_lt hcpu)
  have hkey {cpu : Nat} (hcpu : cpu ∈ online) : fullKey sysfs cpu ∈ online.map (fullKey sysfs) :=
    List.mem_map_of_mem hcpu
  have hid {cpu : Nat} (hcpu : cpu ∈ online) : cpuLlcId m cpu =
      (FirstSeen.order (online.map (fullKey sysfs))).idxOf (fullKey sysfs cpu) := by
    have hlt := h.ids cpu (List.mem_append_left _ hcpu)
    rw [cpuLlcId, hmask (Nat.lt_of_lt_of_le hlt hmax), hllc, if_pos hlt, h.llc cpu hcpu]
  have hsame (a) (ha : a ∈ online) (b) (hb : b ∈ online) :
      cpuLlcId m a = cpuLlcId m b ↔ SameLlc sysfs a b := by
    rw [hid ha, hid hb, FirstSeen.idxOf_order_inj (hkey ha), fullKey_inj]
  have hllcs (llc : Nat) : llc < m.nrLlcs ↔ ∃ cpu ∈ online, cpuLlcId m cpu = llc := by
    rw [hnr, h.nrLlcs]
    constructor
    · intro hlt
      obtain ⟨key, hmem, hidx⟩ := FirstSeen.exists_idxOf_order hlt
      obtain ⟨cpu, hcpu, rfl⟩ := List.mem_map.mp hmem
      exact ⟨cpu, hcpu, (hid hcpu).trans hidx⟩
    · rintro ⟨cpu, hcpu, rfl⟩
      rw [hid hcpu]
      exact FirstSeen.idxOf_order_lt_length (hkey hcpu)
  refine ⟨h.ids, hmax, fun cpu hcpu => ?_, hsame, hllcs, fun a ha b hb => ?_, ?_⟩
  · rw [cpuIsOnline, hmask hcpu, honline]
    split_ifs with hlt
    · exact h.onlineIff cpu
    · exact iff_of_false (by simp) fun hon => hlt (h.ids cpu (List.mem_append_left _ hon))
  · rw [hid ha, hid hb, FirstSeen.idxOf_order_lt_iff (hkey ha) (hkey hb), firstOfLlc_eq, firstOfLlc_eq]
  · constructor
    · intro hone a ha b hb
      have hla := (hllcs _).mpr ⟨a, ha, rfl⟩
      have hlb := (hllcs _).mpr ⟨b, hb, rfl⟩
      exact (hsame a ha b hb).mp (by omega)
    · intro hall
      obtain ⟨first, hfirst⟩ := List.exists_mem_of_ne_nil online hne
      have hpos := (hllcs _).mpr ⟨first, hfirst, rfl⟩
      by_contra hne1
      -- The first two LLCs have a cpu each.
      obtain ⟨a, ha, hza⟩ := (hllcs 0).mp (by omega)
      obtain ⟨b, hb, hzb⟩ := (hllcs 1).mp (by omega)
      have := (hsame a ha b hb).mpr (hall a ha b hb)
      omega

theorem setup_tables {sysfs : Sysfs} {online : List Nat} (honline : sysfs.online = some online)
    (hne : online ≠ []) (hids : ∀ cpu ∈ online ++ sysfs.possible.getD [], cpu < 2 ^ 32 - 1) :
    ((setupSkelRodata sysfs Rodata.zeroed).1 = true → ∃ topo, readTopology sysfs = .ok topo ∧
      ∀ m : Machine, m.toRodata = (setupSkelRodata sysfs Rodata.zeroed).2 →
        TablesOk sysfs online topo m) ∧
    ∀ rodata, (setupSkelRodata sysfs rodata).1 = false → (setupSkelRodata sysfs rodata).2 = rodata := by
  constructor
  · intro hok
    obtain ⟨topo, htopo, hread⟩ := readTopology_spec honline hne hids
    refine ⟨topo, htopo, fun m hm => ?_⟩
    rw [setupSkelRodata_eq] at hok hm
    unfold setupLunarTopology at hok hm
    rw [htopo] at hok hm
    dsimp only at hok hm
    split_ifs at hok hm with hids hllcs
    exact hread.tablesOk hne (Nat.not_lt.mp hids) (congrArg Rodata.nrLlcs hm)
      (congrFun (congrArg Rodata.cpuToLlc hm)) (congrFun (congrArg Rodata.cpuOnline hm))
  · intro rodata hfail
    rw [setupSkelRodata_eq] at hfail ⊢
    split at hfail
    · cases hfail
    · rfl

-- The cpus 0 and 1 have an L3 in common, cpu 2 only has an L2 without an id, and cpu 3 is
-- offline.
def splitLlcs : Sysfs where
  online := some [0, 1, 2]
  possible := some [0, 1, 2, 3]
  physicalPackageId := fun _ => none
  cache := fun cpu =>
    if cpu = 2 then [⟨some 2, none, some "2"⟩] else [⟨some 2, some 7, some "0-1"⟩, ⟨some 3, some 0, none⟩]

theorem setup_tables_splitLlcs : (setupSkelRodata splitLlcs Rodata.zeroed).2.nrLlcs = 2 ∧
    ∃ topo, readTopology splitLlcs = .ok topo ∧
      ∀ m : Machine, m.toRodata = (setupSkelRodata splitLlcs Rodata.zeroed).2 →
        TablesOk splitLlcs [0, 1, 2] topo m := by
  have h := setup_tables (show splitLlcs.online = some [0, 1, 2] from rfl) (by simp) (by decide)
  exact ⟨by decide +kernel, h.1 (by decide +kernel)⟩

end Lunar
