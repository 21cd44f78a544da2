import Lunar.Kernel.Queues
import Lunar.Library.Registry

namespace Lunar

-- lunar_init as a whole, on a machine with any number of cpu ids: the DSQs it creates, what
-- can go wrong, and that no other DSQ is used afterwards.

def ENOMEM : Int := 12

def EEXIST : Int := 17

-- scx_bpf_create_dsq belongs to the kernel: it gets the numbers of the DSQs there are and
-- returns an error or these with the new one.
abbrev CreateDsq := List Nat → Nat → Except Int (List Nat)

-- What lunar_init relies on: a new DSQ is created if there is memory for it, a number in use
-- gives -EEXIST and no memory -ENOMEM. alloc tells whether there is memory for a DSQ.
abbrev CreatesDsqs (alloc : Nat → Bool) (scxBpfCreateDsq : CreateDsq) : Prop :=
  Registry.Claims (-ENOMEM) (-EEXIST) alloc scxBpfCreateDsq

-- One turn of the first loop.
def createDsqs (scxBpfCreateDsq : CreateDsq) (dsqs : List Nat) (cpu : Nat) : Except Int (List Nat) := do
  let dsqs ← scxBpfCreateDsq dsqs (DSQ_CPU_QUEUE_BASE_LC + cpu)
  let dsqs ← scxBpfCreateDsq dsqs (DSQ_CPU_QUEUE_BASE_NORMAL + cpu)
  let dsqs ← scxBpfCreateDsq dsqs (DSQ_CPU_QUEUE_BASE_INTERACTIVE + cpu)
  scxBpfCreateDsq dsqs (DSQ_CPU_QUEUE_BASE_GREEDY + cpu)

-- In the second loop get_dispatch_ctx finds nothing for a cpu past the map.
def lunarInitRet (rodata : Rodata) {nrCpuIds : Nat} (hpos : 0 < nrCpuIds) (scxBpfCreateDsq : CreateDsq)
    (now : Nat → Nat) (s : Sched) : Except Int (List Nat × Sched) :=
  match (List.range nrCpuIds).foldlM (createDsqs scxBpfCreateDsq) [] with
  | .error ret => .error ret
  | .ok dsqs =>
      if hle : nrCpuIds ≤ MAX_CPUS then .ok (dsqs, lunarInit ⟨rodata, nrCpuIds, hpos, hle⟩ now s)
      else .error (-ENOMEM)

section Create

variable {scxBpfCreateDsq : CreateDsq} {alloc : Nat → Bool} {nrCpuIds : Nat} {dsqs : List Nat} {e : Int}

-- The numbers of the DSQs of a cpu, in the order they are created in.
def cpuDsqIds (cpu : Nat) : List Nat :=
  [DSQ_CPU_QUEUE_BASE_LC + cpu, DSQ_CPU_QUEUE_BASE_NORMAL + cpu, DSQ_CPU_QUEUE_BASE_INTERACTIVE + cpu,
    DSQ_CPU_QUEUE_BASE_GREEDY + cpu]

def dsqIds (nrCpuIds : Nat) : List Nat := (List.range nrCpuIds).flatMap cpuDsqIds

theorem createDsqs_eq (dsqs : List Nat) (cpu : Nat) :
    createDsqs scxBpfCreateDsq dsqs cpu = (cpuDsqIds cpu).foldlM scxBpfCreateDsq dsqs := by
  simp [createDsqs, cpuDsqIds]

theorem createAll_eq (cpus dsqs : List Nat) : cpus.foldlM (createDsqs scxBpfCreateDsq) dsqs =
    (cpus.flatMap cpuDsqIds).foldlM scxBpfCreateDsq dsqs := by
  induction cpus generalizing dsqs with
  | nil => rfl
  | cons cpu rest ih =>
      rw [List.foldlM_cons, List.flatMap_cons, List.foldlM_append, createDsqs_eq]
      exact congrArg _ (funext ih)

theorem mem_dsqIds {id : Nat} : id ∈ dsqIds nrCpuIds ↔
    ∃ t c, IsTier t ∧ c < nrCpuIds ∧ getCpuDsqFromType t c = .user id := by
  simp only [dsqIds, List.mem_flatMap, List.mem_range, cpuDsqIds, List.mem_cons, List.not_mem_nil, or_false]
  constructor
  · rintro ⟨c, hc, rfl | rfl | rfl | rfl⟩
    · exact ⟨DSQ_TYPE_LC, c, by decide, hc, rfl⟩
    · exact ⟨DSQ_TYPE_NORMAL, c, by decide, hc, rfl⟩
    · exact ⟨DSQ_TYPE_INTERACTIVE, c, by decide, hc, rfl⟩
    · exact ⟨DSQ_TYPE_GREEDY, c, by decide, hc, rfl⟩
  · rintro ⟨t, c, ht, hc, hid⟩
    refine ⟨c, hc, ?_⟩
    rcases isTier_cases ht with rfl | rfl | rfl | rfl
    · exact Or.inl (DsqId.user.inj hid).symm
    · exact Or.inr (Or.inr (Or.inl (DsqId.user.inj hid).symm))
    · exact Or.inr (Or.inl (DsqId.user.inj hid).symm)
    · exact Or.inr (Or.inr (Or.inr (DsqId.user.inj hid).symm))

-- The numbers of two tiers meet at the first cpu past MAX_CPUS.
theorem dsqIds_nodup : (dsqIds nrCpuIds).Nodup ↔ nrCpuIds ≤ MAX_CPUS := by
  have hmem {id cpu : Nat} : id ∈ cpuDsqIds cpu ↔
      id = 1536 + cpu ∨ id = 2560 + cpu ∨ id = 2048 + cpu ∨ id = 3072 + cpu := by
    simp [cpuDsqIds, DSQ_CPU_QUEUE_BASE_LC, DSQ_CPU_QUEUE_BASE_NORMAL, DSQ_CPU_QUEUE_BASE_INTERACTIVE,
      DSQ_CPU_QUEUE_BASE_GREEDY]
  have hmax : MAX_CPUS = 512 := rfl
  rw [dsqIds, List.nodup_flatMap]
  constructor
  · rintro ⟨-, hpairs⟩
    by_contra hlt
    have hlen : (List.range nrCpuIds).length = nrCpuIds := List.length_range
    have hdisjoint := List.pairwise_iff_getElem.mp hpairs 0 512 (by omega) (by omega) (by omega)
    rw [List.getElem_range, List.getElem_range] at hdisjoint
    exact hdisjoint (a := 2048) (hmem.mpr (by omega)) (hmem.mpr (by omega))
  · intro hle
    refine ⟨fun cpu _ => ?_, ?_⟩
    · simp [cpuDsqIds, DSQ_CPU_QUEUE_BASE_LC, DSQ_CPU_QUEUE_BASE_NORMAL, DSQ_CPU_QUEUE_BASE_INTERACTIVE,
        DSQ_CPU_QUEUE_BASE_GREEDY]
    · refine List.pairwise_lt_range.imp_of_mem fun {c c'} hc hc' hlt id hid hid' => ?_
      have hc' := List.mem_range.mp hc'
      rw [hmem] at hid hid'
      omega

theorem createAll_ok (hcreate : CreatesDsqs alloc scxBpfCreateDsq) :
    (List.range nrCpuIds).foldlM (createDsqs scxBpfCreateDsq) [] = .ok dsqs ↔
      nrCpuIds ≤ MAX_CPUS ∧ (∀ id ∈ dsqIds nrCpuIds, alloc id) ∧ dsqs = (dsqIds nrCpuIds).reverse := by
  rw [createAll_eq]
  refine (hcreate.foldlM_ok List.nodup_nil).trans ?_
  rw [List.append_nil, List.nodup_reverse]
  exact ⟨fun h => ⟨dsqIds_nodup.mp h.2.1, h.1, h.2.2⟩, fun h => ⟨h.2.1, dsqIds_nodup.mpr h.1, h.2.2⟩⟩

theorem createAll_error (hcreate : CreatesDsqs alloc scxBpfCreateDsq)
    (h : (List.range nrCpuIds).foldlM (createDsqs scxBpfCreateDsq) [] = .error e) :
    e = -ENOMEM ∧ (∃ id ∈ dsqIds nrCpuIds, !alloc id) ∨ e = -EEXIST ∧ MAX_CPUS < nrCpuIds := by
  rw [createAll_eq] at h
  rcases hcreate.foldlM_error h with hfull | ⟨rfl, hin⟩
  · exact Or.inl hfull
  · rw [List.append_nil, List.nodup_reverse] at hin
    exact Or.inr ⟨rfl, Nat.lt_of_not_le fun hle => hin (dsqIds_nodup.mpr hle)⟩

theorem lunarInitRet_ok (hcreate : CreatesDsqs alloc scxBpfCreateDsq) {rodata : Rodata}
    {hpos : 0 < nrCpuIds} {now : Nat → Nat} {s : Sched} {created : List Nat × Sched} :
    lunarInitRet rodata hpos scxBpfCreateDsq now s = .ok created ↔
      ∃ hle : nrCpuIds ≤ MAX_CPUS, (∀ id ∈ dsqIds nrCpuIds, alloc id) ∧
        created = ((dsqIds nrCpuIds).reverse, lunarInit ⟨rodata, nrCpuIds, hpos, hle⟩ now s) := by
  unfold lunarInitRet
  cases hall : (List.range nrCpuIds).foldlM (createDsqs scxBpfCreateDsq) [] with
  | error e =>
      refine iff_of_false nofun ?_
      rintro ⟨hle, halloc, -⟩
      have hok := (createAll_ok hcreate).mpr ⟨hle, halloc, rfl⟩
      rw [hall] at hok
      cases hok
  | ok dsqs =>
      obtain ⟨hle, halloc, rfl⟩ := (createAll_ok hcreate).mp hall
      simp only [dif_pos hle]
      refine ⟨fun hok => ⟨hle, halloc, (Except.ok.inj hok).symm⟩, ?_⟩
      rintro ⟨-, -, rfl⟩
      rfl

-- With memory for every DSQ and at most MAX_CPUS cpu ids, and only then, lunar_init succeeds.
-- It has then created the four queues of every cpu, each once and no other. Otherwise it says
-- what was wrong.
theorem lunar_init_exact (rodata : Rodata) (hpos : 0 < nrCpuIds) (now : Nat → Nat) (s : Sched)
    (hcreate : CreatesDsqs alloc scxBpfCreateDsq) :
    (∀ created, lunarInitRet rodata hpos scxBpfCreateDsq now s = .ok created ↔
      ∃ hle : nrCpuIds ≤ MAX_CPUS, (∀ id ∈ dsqIds nrCpuIds, alloc id) ∧
        created = ((dsqIds nrCpuIds).reverse, lunarInit ⟨rodata, nrCpuIds, hpos, hle⟩ now s)) ∧
    ((dsqIds nrCpuIds).Nodup ↔ nrCpuIds ≤ MAX_CPUS) ∧
    (∀ id, id ∈ dsqIds nrCpuIds ↔ ∃ t c, IsTier t ∧ c < nrCpuIds ∧ getCpuDsqFromType t c = .user id) ∧
    (∀ e, lunarInitRet rodata hpos scxBpfCreateDsq now s = .error e →
      e = -ENOMEM ∧ (∃ id ∈ dsqIds nrCpuIds, !alloc id) ∨ e = -EEXIST ∧ MAX_CPUS < nrCpuIds) := by
  refine ⟨fun created => lunarInitRet_ok hcreate, dsqIds_nodup, fun id => mem_dsqIds, fun e he => ?_⟩
  unfold lunarInitRet at he
  cases hall : (List.range nrCpuIds).foldlM (createDsqs scxBpfCreateDsq) [] with
  | error e' =>
      rw [hall] at he
      obtain rfl := Except.error.inj he
      exact createAll_error hcreate hall
  | ok dsqs =>
      rw [hall] at he
      simp only [dif_pos ((createAll_ok hcreate).mp hall).1] at he
      cases he

-- On a machine with 513 cpu ids the queue of the last cpu has the number of another one.
theorem lunar_init_exact_513 : lunarInitRet .zeroed (show 0 < 513 by decide)
    (Registry.claimOne (-ENOMEM) (-EEXIST) fun _ => true) (fun _ => 0) .zeroed = .error (-EEXIST) := by
  obtain ⟨hok, -, -, herror⟩ := lunar_init_exact .zeroed (show 0 < 513 by decide) (fun _ => 0) .zeroed
    (Registry.claims_claimOne (-ENOMEM) (-EEXIST) fun _ => true)
  cases hret : lunarInitRet .zeroed (show 0 < 513 by decide)
      (Registry.claimOne (-ENOMEM) (-EEXIST) fun _ => true) (fun _ => 0) .zeroed with
  | ok created =>
      obtain ⟨hle, -⟩ := (hok created).mp hret
      exact absurd hle (by decide)
  | error e =>
      rcases herror e hret with ⟨-, id, -, hno⟩ | ⟨rfl, -⟩
      · cases hno
      · rfl

end Create

section Created

variable {m : Machine} {start sys sys' : Sys} {event : Event}

-- A DSQ that lunar_init created, or the local one of a cpu.
def DsqExists (m : Machine) : DsqId → Prop
  | .user id => id ∈ dsqIds m.nrCpuIds
  | .localOn cpu => cpu < m.nrCpuIds

theorem DsqExists.of_tier {t c : Nat} (ht : IsTier t) (hc : c < m.nrCpuIds) : DsqExists m (getCpuDsqFromType t c) := by
  cases hid : getCpuDsqFromType t c with
  | localOn cpu => exact absurd hid (getCpuDsqFromType_ne_localOn t c cpu)
  | user id => exact mem_dsqIds.mpr ⟨t, c, ht, hc, hid⟩

-- Every event puts tasks only in DSQs that exist.
theorem QueueMoves.into {moves : List (Queues.Move DsqId Task)} (h : QueueMoves m sys event moves)
    (hinv : Inv m sys) (hg : sys.guard m event) : ∀ move ∈ moves, move.Into (DsqExists m) := by
  have hlocal {p : Task} (hactive : (sys.phase p).active) : DsqExists m (.localOn (sys.cpuOf p)) :=
    (hinv.tasks p).cpu hactive
  cases h with
  | quiet | fruitless => exact nofun
  | enqueue ht hc => simpa [Queues.Move.Into] using DsqExists.of_tier ht hc
  | @enqueueLocal p slice =>
      have hactive : (sys.phase p).active := by
        rcases hg with hp | hp | hp | hp
        · simp [hp, Phase.active]
        · simp [hp, Phase.active]
        · simp [hp, Phase.active]
        · simp [(hinv.members _ p hp).phase, Phase.active]
      simpa [Queues.Move.Into] using hlocal hactive
  | @insertDirect p =>
      have hactive : (sys.phase p).active := by rcases hg.1 with hp | hp <;> simp [hp, Phase.active]
      simpa [Queues.Move.Into] using hlocal hactive
  | @restore p =>
      have hp : sys.phase p = .runnable .running := hg
      simpa [Queues.Move.Into] using hlocal (p := p) (by simp [hp, Phase.active])
  | @putBack p => simpa [Queues.Move.Into] using hlocal (p := p) (by simp [hg.1, Phase.active])
  | @dispatch k cpu =>
      have hcpu : cpu < m.nrCpuIds := hg.1
      simpa [Queues.Move.Into, DsqExists] using hcpu
  | running | quiescent => simp [Queues.Move.Into]

-- In every run, tasks are only in DSQs that lunar_init created or that belong to a cpu there
-- is.
theorem dsqs_created (hstart : Sys.Start m start) (hreach : (lunarSys m).Reaches start sys)
    {scxBpfCreateDsq : CreateDsq} {alloc : Nat → Bool} (hcreate : CreatesDsqs alloc scxBpfCreateDsq)
    {now : Nat → Nat} {s : Sched} {created : List Nat × Sched}
    (hinit : lunarInitRet m.toRodata m.nrCpuIds_pos scxBpfCreateDsq now s = .ok created) :
    (∀ id, sys.sched.dsq (.user id) ≠ [] → id ∈ created.1) ∧
      ∀ cpu, sys.localDsq cpu ≠ [] → cpu < m.nrCpuIds := by
  have h : Inv m sys ∧ ∀ id, sys.sched.dsq id ≠ [] → DsqExists m id := by
    refine (lunarSys m).invariant_of_reaches (P := fun sys =>
      Inv m sys ∧ ∀ id, sys.sched.dsq id ≠ [] → DsqExists m id) ?_ ⟨Inv.start hstart, fun id hne => ?_⟩ hreach
    · rintro state event ⟨hinv, hexists⟩ he
      obtain ⟨moves, hmoves, hruns, hfinal⟩ := hinv.matched he
      refine ⟨hinv.step (hinv.stepped he), ?_⟩
      rw [← hfinal]
      exact Queues.final_into hexists (hmoves.into hinv he.2)
    · obtain ⟨s, now, hsched, hdsq, -, -, -⟩ := hstart.sched
      rw [hsched, (lunarInit_spec m now s).dsq, hdsq] at hne
      exact absurd rfl hne
  obtain ⟨-, -, rfl⟩ := (lunarInitRet_ok hcreate).mp hinit
  exact ⟨fun id hne => List.mem_reverse.mpr (h.2 _ hne), fun cpu hne => h.2 _ hne⟩

-- The queue that tasks wait in was created.
theorem dsqs_created_lastCome : ∃ created,
    lunarInitRet oneCpu.toRodata oneCpu.nrCpuIds_pos (Registry.claimOne (-ENOMEM) (-EEXIST) fun _ => true)
        (fun _ => 10) .zeroed = .ok created ∧
      lastCome.sched.dsq (.user DSQ_CPU_QUEUE_BASE_GREEDY) ≠ [] ∧ DSQ_CPU_QUEUE_BASE_GREEDY ∈ created.1 := by
  have hstart : Sys.Start oneCpu oneCpuBoot := Sys.start_boot oneCpu (by decide) fun _ => rfl
  have hreach : (lunarSys oneCpu).Reaches oneCpuBoot lastCome := ⟨beforeLast, by decide +kernel, rfl⟩
  have hwaits : lastCome.sched.dsq (.user DSQ_CPU_QUEUE_BASE_GREEDY) ≠ [] := by decide +kernel
  have hcreate : CreatesDsqs (fun _ => true) (Registry.claimOne (-ENOMEM) (-EEXIST) fun _ => true) :=
    Registry.claims_claimOne ..
  obtain ⟨created, hinit⟩ : ∃ created, lunarInitRet oneCpu.toRodata oneCpu.nrCpuIds_pos
      (Registry.claimOne (-ENOMEM) (-EEXIST) fun _ => true) (fun _ => 10) .zeroed = .ok created := ⟨_, rfl⟩
  exact ⟨created, hinit, hwaits, (dsqs_created hstart hreach hcreate hinit).1 _ hwaits⟩

end Created

end Lunar
