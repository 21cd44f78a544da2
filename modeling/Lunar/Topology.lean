import Lunar.Datatypes
import Lunar.Library.Scan

namespace Lunar

-- One cache/index* directory of a cpu. The numbers are what read_long_file makes of
-- the files, `none` if a file is missing or not a number.
structure CacheIndex where
  level : Option Int
  id : Option Int
  sharedCpuList : Option String
deriving DecidableEq, Repr

-- What read_topology reads below cpu_root. `online` and `possible` are the parsed
-- cpulists, the index directories stand in the order the directory lists them.
structure Sysfs where
  online : Option (List Nat)
  possible : Option (List Nat)
  physicalPackageId : Nat → Option Int
  cache : Nat → List CacheIndex

structure Topology where
  nrCpuIds : Nat
  nrLlcs : Nat
  cpuToLlc : Nat → Nat
  cpuOnline : Nat → Bool

inductive TopologyError where
  -- failed to read online CPUs
  | noOnlineCpus
  -- more possible CPU ids than MAX_CPUS
  | tooManyCpuIds (nrCpuIds : Nat)
  -- topology reported zero LLC domains
  | noLlcs
deriving DecidableEq, Repr

def findCacheLevelDir (sysfs : Sysfs) (cpu : Nat) (wantedLevel : Int) : Option CacheIndex :=
  (sysfs.cache cpu).find? fun entry => entry.level = some wantedLevel

def cacheGroupKey (sysfs : Sysfs) (cpu : Nat) (level : Int) : Option String :=
  match findCacheLevelDir sysfs cpu level with
  | none => none
  | some indexDir =>
      match indexDir.id with
      | some id => some ("l" ++ toString level ++ ":id:" ++ toString id)
      | none => indexDir.sharedCpuList.map fun shared =>
          "l" ++ toString level ++ ":shared:" ++ shared

def fullKey (sysfs : Sysfs) (cpu : Nat) : String :=
  let package := (sysfs.physicalPackageId cpu).getD 0
  let key := ((cacheGroupKey sysfs cpu 3).or (cacheGroupKey sysfs cpu 2)).getD "nocache"
  "p" ++ toString package ++ ":" ++ key

-- group_to_dense as a list of its entries. There are no more groups than cpu ids,
-- so its size fits the u32 it is cast to.
abbrev Groups := List (String × Nat)

def tryEmplace (groups : Groups) (key : String) : Groups :=
  if (groups.lookup key).isSome then groups else groups ++ [(key, groups.length)]

-- One turn of the loop over the online cpus.
def readCpu (sysfs : Sysfs) (state : Groups × Topology) (cpu : Nat) : Groups × Topology :=
  let groups := tryEmplace state.1 (fullKey sysfs cpu)
  (groups, { state.2 with
    cpuOnline := Function.update state.2.cpuOnline cpu true
    cpuToLlc := Function.update state.2.cpuToLlc cpu ((groups.lookup (fullKey sysfs cpu)).getD 0) })

def readTopology (sysfs : Sysfs) : Except TopologyError Topology :=
  match sysfs.online with
  | none | some [] => .error .noOnlineCpus
  | some online =>
      let idSource :=
        match sysfs.possible with
        | none | some [] => online
        | some possible => possible
      let maxCpuId := online.foldl max (idSource.foldl max 0)
      let topo : Topology := ⟨(maxCpuId + 1) % 2 ^ 32, 0, fun _ => 0, fun _ => false⟩
      let (groups, topo) := online.foldl (readCpu sysfs) ([], topo)
      .ok { topo with nrLlcs := groups.length }

def setupLunarTopology (sysfs : Sysfs) (rodata : Rodata) : Except TopologyError Rodata :=
  match readTopology sysfs with
  | .error e => .error e
  | .ok topo =>
      if topo.nrCpuIds > MAX_CPUS then .error (.tooManyCpuIds topo.nrCpuIds)
      else if topo.nrLlcs = 0 then .error .noLlcs
      else .ok
        { nrLlcs := topo.nrLlcs
          cpuToLlc := fun cpu =>
            if cpu < topo.nrCpuIds then topo.cpuToLlc cpu else rodata.cpuToLlc cpu
          cpuOnline := fun cpu =>
            if cpu < topo.nrCpuIds then topo.cpuOnline cpu else rodata.cpuOnline cpu }

-- The map after some cpus are read holds their keys, numbered as they came up.

theorem lookup_zipIdx (keys : List String) (key : String) (first : Nat) :
    (keys.zipIdx first).lookup key = if key ∈ keys then some (first + keys.idxOf key) else none := by
  induction keys generalizing first with
  | nil => rfl
  | cons k rest ih =>
      rw [List.zipIdx_cons, List.lookup_cons]
      by_cases hk : key = k
      · simp [hk]
      · have hne : (key == k) = false := by simpa using hk
        rw [hne, ih]
        by_cases hrest : key ∈ rest
        · simp [hrest, List.idxOf_cons_ne _ (Ne.symm hk), Nat.add_comm, Nat.add_left_comm]
        · simp [hrest, hk]

theorem tryEmplace_zipIdx (keys : List String) (key : String) :
    tryEmplace keys.zipIdx key = (FirstSeen.add keys key).zipIdx := by
  unfold tryEmplace FirstSeen.add
  rw [lookup_zipIdx]
  by_cases hkey : key ∈ keys
  · simp [hkey]
  · simp [hkey, List.zipIdx_append]

-- The cpus read so far.
structure ReadSoFar (sysfs : Sysfs) (done : List Nat) (state : Groups × Topology) : Prop where
  groups : state.1 = (FirstSeen.order (done.map (fullKey sysfs))).zipIdx
  online : ∀ cpu, state.2.cpuOnline cpu ↔ cpu ∈ done
  llc : ∀ cpu ∈ done, state.2.cpuToLlc cpu =
    (FirstSeen.order (done.map (fullKey sysfs))).idxOf (fullKey sysfs cpu)

theorem ReadSoFar.readCpu {sysfs : Sysfs} {done : List Nat} {state : Groups × Topology}
    (h : ReadSoFar sysfs done state) (cpu : Nat) :
    ReadSoFar sysfs (done ++ [cpu]) (readCpu sysfs state cpu) := by
  have hkeys : FirstSeen.order ((done ++ [cpu]).map (fullKey sysfs)) =
      FirstSeen.add (FirstSeen.order (done.map (fullKey sysfs))) (fullKey sysfs cpu) := by
    rw [List.map_append]
    exact FirstSeen.order_concat _ _
  have hgroups : tryEmplace state.1 (fullKey sysfs cpu) =
      (FirstSeen.order ((done ++ [cpu]).map (fullKey sysfs))).zipIdx := by
    rw [h.groups, tryEmplace_zipIdx, hkeys]
  have hlookup : ((tryEmplace state.1 (fullKey sysfs cpu)).lookup (fullKey sysfs cpu)).getD 0 =
      (FirstSeen.order ((done ++ [cpu]).map (fullKey sysfs))).idxOf (fullKey sysfs cpu) := by
    rw [hgroups, lookup_zipIdx, if_pos (by simp)]
    simp
  refine ⟨hgroups, fun other => ?_, fun other hother => ?_⟩
  · simp only [Lunar.readCpu, List.mem_append, List.mem_singleton]
    by_cases ho : other = cpu
    · simp [ho]
    · simp [h.online, ho]
  · simp only [Lunar.readCpu]
    by_cases ho : other = cpu
    · rw [ho, Function.update_self, hlookup]
    · have hold : other ∈ done := by simpa [ho] using hother
      rw [Function.update_of_ne ho, h.llc other hold, hkeys, FirstSeen.idxOf_add]
      exact FirstSeen.mem_order.mpr (List.mem_map_of_mem hold)

theorem readSoFar_foldl {sysfs : Sysfs} {done : List Nat} {state : Groups × Topology}
    (h : ReadSoFar sysfs done state) (cpus : List Nat) :
    ReadSoFar sysfs (done ++ cpus) (cpus.foldl (readCpu sysfs) state) ∧
      (cpus.foldl (readCpu sysfs) state).2.nrCpuIds = state.2.nrCpuIds := by
  induction cpus generalizing done state with
  | nil => exact ⟨by simpa using h, rfl⟩
  | cons cpu rest ih =>
      obtain ⟨hread, hids⟩ := ih (h.readCpu cpu)
      rw [List.append_assoc] at hread
      exact ⟨hread, hids⟩

theorem readTopology_llc_lt {sysfs : Sysfs} {topo : Topology} (h : readTopology sysfs = .ok topo)
    {cpu : Nat} (honline : topo.cpuOnline cpu) : topo.cpuToLlc cpu < topo.nrLlcs := by
  unfold readTopology at h
  split at h
  · cases h
  · cases h
  · rename_i online _ _
    cases h
    dsimp only at honline ⊢
    generalize hfirst : (⟨_, 0, fun _ => 0, fun _ => false⟩ : Topology) = first at honline ⊢
    have hnone : ReadSoFar sysfs [] ([], first) := by
      rw [← hfirst]
      exact ⟨rfl, by simp, by simp⟩
    obtain ⟨hgroups, hon, hllc⟩ := (readSoFar_foldl hnone online).1
    have hcpu : cpu ∈ online := (hon cpu).mp honline
    rw [hllc cpu hcpu, hgroups, List.length_zipIdx]
    exact FirstSeen.idxOf_order_lt_length (List.mem_map_of_mem hcpu)

-- What the tables say about online cpus: their LLC is one of the nr_llcs.
theorem setupLunarTopology_llc_lt {sysfs : Sysfs} {rodata : Rodata}
    (h : setupLunarTopology sysfs Rodata.zeroed = .ok rodata) {cpu : Nat}
    (honline : rodata.cpuOnline cpu) : rodata.cpuToLlc cpu < rodata.nrLlcs := by
  unfold setupLunarTopology at h
  split at h
  · cases h
  · rename_i topo htopo
    split_ifs at h
    cases h
    dsimp only at honline ⊢
    split_ifs at honline ⊢
    · exact readTopology_llc_lt htopo honline
    · cases honline

-- So if nr_llcs is 1, all online cpus share the LLC.
theorem setupLunarTopology_single_llc {sysfs : Sysfs} {rodata : Rodata}
    (h : setupLunarTopology sysfs Rodata.zeroed = .ok rodata) (hsingle : ¬1 < rodata.nrLlcs)
    {a b : Nat} (ha : rodata.cpuOnline a) (hb : rodata.cpuOnline b) :
    rodata.cpuToLlc a = rodata.cpuToLlc b := by
  have := setupLunarTopology_llc_lt h ha
  have := setupLunarTopology_llc_lt h hb
  omega

end Lunar
