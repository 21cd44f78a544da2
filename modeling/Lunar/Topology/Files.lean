import Lunar.Topology.Cpulist
import Lunar.Topology.Groups
import Mathlib.Data.List.DropRight

namespace Lunar

-- The files below cpu_root as texts: how read_topology reads them, and how the kernel writes
-- them.

-- What read_first_line cuts off at the end of a line.
def isTrimmed (c : Char) : Bool := c = '\n' ∨ c = '\r' ∨ c = ' ' ∨ c = '\t'

-- `none` is a file that cannot be opened. getline() fails in an empty one.
def readFirstLine : Option (List Char) → Option (List Char)
  | none | some [] => none
  | some text => some ((text.takeWhile (· ≠ '\n')).rdropWhile isTrimmed)

-- std::stol, for the 64 bits of a long
def stol (text : List Char) : Option Int :=
  let (negative, text) := takeSign (text.dropWhile isSpace)
  let ds := text.takeWhile Char.isDigit
  if ds = [] then none
  else
    let n := Nat.ofDigitChars 10 ds 0
    if negative then if n ≤ 2 ^ 63 then some (-n) else none
    else if n < 2 ^ 63 then some n else none

-- Where stol does not throw, it has read something: `pos > 0` always holds.
def readLongFile (file : Option (List Char)) : Option Int := (readFirstLine file).bind stol

def readCpulistFile (fuel : Nat) (file : Option (List Char)) : ParsedCpulist :=
  match readFirstLine file with
  | none => .nullopt
  | some line => parseCpulist fuel line

structure CacheFiles where
  level : Option (List Char)
  id : Option (List Char)
  sharedCpuList : Option (List Char)
deriving DecidableEq, Repr

-- `cache` is what the cache directory of a cpu lists, with the name of each entry. It lists
-- nothing where there is no such directory.
structure SysfsFiles where
  online : Option (List Char)
  possible : Option (List Char)
  physicalPackageId : Nat → Option (List Char)
  cache : Nat → List (List Char × CacheFiles)

-- name.rfind("index", 0) == 0
def isIndexName (name : List Char) : Bool := "index".toList.isPrefixOf name

def CacheFiles.read (files : CacheFiles) : CacheIndex where
  level := readLongFile files.level
  id := readLongFile files.id
  sharedCpuList := (readFirstLine files.sharedCpuList).map String.ofList

-- What the program makes of the files, `none` where a cpulist has no end. The possible cpus
-- are only read if there are online ones.
def SysfsFiles.read (fuel : Nat) (files : SysfsFiles) : Option Sysfs :=
  let sysfs (online possible : Option (List Nat)) : Sysfs :=
    { online := online
      possible := possible
      physicalPackageId := fun cpu => readLongFile (files.physicalPackageId cpu)
      cache := fun cpu =>
        ((files.cache cpu).filter fun entry => isIndexName entry.1).map fun entry => entry.2.read }
  match readCpulistFile fuel files.online with
  | .running => none
  | .nullopt | .cpus [] => some (sysfs none none)
  | .cpus online =>
      match readCpulistFile fuel files.possible with
      | .running => none
      | .nullopt => some (sysfs (some online) none)
      | .cpus possible => some (sysfs (some online) (some possible))

def setupFromFiles (fuel : Nat) (files : SysfsFiles) (rodata : Rodata) : Option (Bool × Rodata) :=
  (files.read fuel).map fun sysfs => setupSkelRodata sysfs rodata

-- The kernel side.

-- Whether a cache has an id depends on the architecture.
structure Cache where
  level : Nat
  id : Option Nat
  shared : Finset Nat
deriving DecidableEq

structure Hardware where
  online : Finset Nat
  possible : Finset Nat
  package : Nat → Option Int
  caches : Nat → List Cache
  nonempty : online.Nonempty
  cpus_lt : ∀ cpu ∈ online ∪ possible, cpu < MAX_CPUS
  package_fits : ∀ cpu, ∀ id ∈ package cpu, -2 ^ 31 ≤ id ∧ id < 2 ^ 31
  caches_fit : ∀ cpu, ∀ cache ∈ caches cpu,
    cache.level < 2 ^ 32 ∧ (∀ id ∈ cache.id, id < 2 ^ 32) ∧ ∀ other ∈ cache.shared, other < 2 ^ 32

-- What the cpus of an LLC have in common: a level, and the id or the cpus of its cache.
def Cache.mark (cache : Cache) : Nat × (Nat ⊕ Finset Nat) :=
  (cache.level, cache.id.elim (.inr cache.shared) .inl)

namespace Hardware

-- L3, else L2, else none
def llc (hw : Hardware) (cpu : Nat) : Option Cache :=
  ((hw.caches cpu).find? (·.level = 3)).or ((hw.caches cpu).find? (·.level = 2))

def SameLlc (hw : Hardware) (a b : Nat) : Prop :=
  (hw.package a).getD 0 = (hw.package b).getD 0 ∧ (hw.llc a).map Cache.mark = (hw.llc b).map Cache.mark

end Hardware

-- Every file is one line.
def printLine (text : List Char) : List Char := text ++ ['\n']

def printSet (cpus : Finset Nat) : List Char := printCpulist (runs (cpus.sort (· ≤ ·)))

def Cache.print (cache : Cache) : CacheFiles where
  level := some (printLine (Text.digits cache.level))
  id := cache.id.map fun id => printLine (Text.digits id)
  sharedCpuList := some (printLine (printSet cache.shared))

-- The directories of the caches come in some order, and there may be other entries.
structure Hardware.WrittenIn (hw : Hardware) (files : SysfsFiles) : Prop where
  online : files.online = some (printLine (printSet hw.online))
  possible : files.possible = some (printLine (printSet hw.possible))
  package : ∀ cpu, files.physicalPackageId cpu =
    (hw.package cpu).map fun id => printLine (toString id).toList
  cache : ∀ cpu, ((files.cache cpu).filter fun entry => isIndexName entry.1).map Prod.snd =
    (hw.caches cpu).map Cache.print

section Lines

-- Numbers and cpulists have nothing in them that would be cut off.
theorem readFirstLine_printLine {text : List Char} (htext : ∀ c ∈ text, isTrimmed c = false) :
    readFirstLine (some (printLine text)) = some text := by
  have hline : (printLine text).takeWhile (· ≠ '\n') = text := by
    unfold printLine
    rw [List.takeWhile_append_of_pos]
    · simp
    · intro c hc
      have := htext c hc
      simp only [isTrimmed, decide_eq_false_iff_not, not_or] at this
      simpa using this.1
  have hend : text.rdropWhile isTrimmed = text :=
    List.rdropWhile_eq_self_iff.mpr fun hne => by simp [htext _ (List.getLast_mem hne)]
  cases hprint : printLine text with
  | nil => simp [printLine] at hprint
  | cons c rest =>
      rw [hprint] at hline
      simp only [readFirstLine, hline, hend]

theorem isTrimmed_of_isDigit {c : Char} (hc : c.isDigit) : isTrimmed c = false := by
  have hne {sep : Char} (hsep : sep.isDigit = false) : c ≠ sep := ne_of_isDigit hc hsep
  simp [isTrimmed, hne (show '\n'.isDigit = false by decide), hne (show '\r'.isDigit = false by decide),
    hne (show ' '.isDigit = false by decide), hne (show '\t'.isDigit = false by decide)]

theorem takeSign_dropWhile {text : List Char} (hne : text ≠ []) (hall : ∀ c ∈ text, c.isDigit) :
    takeSign (text.dropWhile isSpace) = (false, text) := by
  obtain ⟨c, rest, rfl⟩ := List.exists_cons_of_ne_nil hne
  have hc : c.isDigit := hall c List.mem_cons_self
  rw [List.dropWhile_cons_of_neg (by simp [isSpace_of_isDigit hc])]
  exact takeSign_of_isDigit hc rest

theorem isTrimmed_of_mem_printRange {range : Nat × Nat} {c : Char} (hc : c ∈ printRange range) :
    isTrimmed c = false := by
  have hdigits {n : Nat} (hc : c ∈ Text.digits n) : isTrimmed c = false :=
    isTrimmed_of_isDigit (Text.isDigit_of_mem_digits hc)
  unfold printRange at hc
  split_ifs at hc
  · exact hdigits hc
  · rcases List.mem_append.mp hc with hc | hc
    · exact hdigits hc
    rcases List.mem_cons.mp hc with rfl | hc
    · decide
    · exact hdigits hc

theorem isTrimmed_printSet (cpus : Finset Nat) : ∀ c ∈ printSet cpus, isTrimmed c = false := by
  intro c hc
  rcases Text.mem_intercalate hc with rfl | ⟨piece, hpiece, hc⟩
  · decide
  · obtain ⟨range, -, rfl⟩ := List.mem_map.mp hpiece
    exact isTrimmed_of_mem_printRange hc

theorem isTrimmed_toString (i : Int) : ∀ c ∈ (toString i).toList, isTrimmed c = false := by
  intro c hc
  rcases Text.mem_toString hc with hc | rfl
  · exact isTrimmed_of_isDigit hc
  · decide

theorem stol_digits {n : Nat} (hn : n < 2 ^ 63) : stol (Text.digits n) = some (n : Int) := by
  have hall : ∀ c ∈ Text.digits n, c.isDigit := fun c hc => Text.isDigit_of_mem_digits hc
  have htake : (Text.digits n).takeWhile Char.isDigit = Text.digits n := List.takeWhile_eq_self_iff.mpr hall
  unfold stol
  rw [takeSign_dropWhile (Text.digits_ne_nil n) hall]
  dsimp only
  rw [htake, if_neg (Text.digits_ne_nil n), Text.ofDigitChars_digits, if_pos hn]
  rfl

theorem stol_neg_digits {n : Nat} (hn : n ≤ 2 ^ 63) : stol ('-' :: Text.digits n) = some (-n : Int) := by
  have hall : ∀ c ∈ Text.digits n, c.isDigit := fun c hc => Text.isDigit_of_mem_digits hc
  have htake : (Text.digits n).takeWhile Char.isDigit = Text.digits n := List.takeWhile_eq_self_iff.mpr hall
  have hsign : takeSign ('-' :: Text.digits n) = (true, Text.digits n) := rfl
  unfold stol
  rw [List.dropWhile_cons_of_neg (by decide), hsign]
  dsimp only
  rw [htake, if_neg (Text.digits_ne_nil n), Text.ofDigitChars_digits, if_pos hn]
  rfl

theorem stol_toString {i : Int} (hlo : -2 ^ 63 ≤ i) (hhi : i < 2 ^ 63) :
    stol (toString i).toList = some i := by
  rw [Text.toList_toString]
  split_ifs with hi
  · rw [stol_digits (by omega), Int.toNat_of_nonneg hi]
  · rw [stol_neg_digits (by omega), Int.toNat_of_nonneg (by omega), Int.neg_neg]

theorem readLongFile_digits {n : Nat} (hn : n < 2 ^ 32) :
    readLongFile (some (printLine (Text.digits n))) = some (n : Int) := by
  have htext : ∀ c ∈ Text.digits n, isTrimmed c = false := fun c hc =>
    isTrimmed_of_isDigit (Text.isDigit_of_mem_digits hc)
  rw [readLongFile, readFirstLine_printLine htext]
  exact stol_digits (by omega)

theorem readLongFile_toString {i : Int} (hlo : -2 ^ 31 ≤ i) (hhi : i < 2 ^ 31) :
    readLongFile (some (printLine (toString i).toList)) = some i := by
  rw [readLongFile, readFirstLine_printLine (isTrimmed_toString i)]
  exact stol_toString (by omega) (by omega)

theorem parseCpulist_printSet {fuel : Nat} (hfuel : 2 ^ 32 < fuel) {cpus : Finset Nat}
    (hcpus : ∀ cpu ∈ cpus, cpu < 2 ^ 32) :
    parseCpulist fuel (printSet cpus) = .cpus (cpus.sort (· ≤ ·)) := by
  obtain ⟨hbounds, hflat⟩ := runs_spec (cpus.sort (· ≤ ·))
  rw [printSet, parseCpulist_printCpulist hfuel, hflat]
  intro range hr
  obtain ⟨hle, -, hhi⟩ := hbounds range hr
  exact ⟨hle, hcpus _ (Finset.mem_sort _ |>.mp hhi)⟩

theorem readCpulistFile_printSet {fuel : Nat} (hfuel : 2 ^ 32 < fuel) {cpus : Finset Nat}
    (hcpus : ∀ cpu ∈ cpus, cpu < 2 ^ 32) :
    readCpulistFile fuel (some (printLine (printSet cpus))) = .cpus (cpus.sort (· ≤ ·)) := by
  rw [readCpulistFile, readFirstLine_printLine (isTrimmed_printSet cpus)]
  exact parseCpulist_printSet hfuel hcpus

-- So a list tells which set it is of.
theorem printSet_inj {a b : Finset Nat} (ha : ∀ cpu ∈ a, cpu < 2 ^ 32) (hb : ∀ cpu ∈ b, cpu < 2 ^ 32)
    (h : printSet a = printSet b) : a = b := by
  have hread := parseCpulist_printSet (Nat.lt_succ_self (2 ^ 32)) ha
  rw [h, parseCpulist_printSet (Nat.lt_succ_self (2 ^ 32)) hb] at hread
  rw [← Finset.sort_toFinset a (· ≤ ·), ← Finset.sort_toFinset b (· ≤ ·), ParsedCpulist.cpus.inj hread]

end Lines

-- What the files say.

def Cache.index (cache : Cache) : CacheIndex where
  level := some cache.level
  id := cache.id.map fun id => (id : Int)
  sharedCpuList := some (String.ofList (printSet cache.shared))

def Hardware.sysfs (hw : Hardware) : Sysfs where
  online := some (hw.online.sort (· ≤ ·))
  possible := some (hw.possible.sort (· ≤ ·))
  physicalPackageId := hw.package
  cache := fun cpu => (hw.caches cpu).map Cache.index

section Written

variable {hw : Hardware} {files : SysfsFiles}

theorem Cache.print_read {cache : Cache} (hlevel : cache.level < 2 ^ 32)
    (hid : ∀ id ∈ cache.id, id < 2 ^ 32) : cache.print.read = cache.index := by
  unfold CacheFiles.read Cache.print Cache.index
  rw [readLongFile_digits hlevel, readFirstLine_printLine (isTrimmed_printSet cache.shared)]
  cases hcache : cache.id with
  | none => rfl
  | some id => simp [readLongFile_digits (hid id hcache)]

theorem Hardware.online_lt (hw : Hardware) : ∀ cpu ∈ hw.online, cpu < MAX_CPUS := fun cpu hcpu =>
  hw.cpus_lt cpu (Finset.mem_union_left _ hcpu)

theorem Hardware.possible_lt (hw : Hardware) : ∀ cpu ∈ hw.possible, cpu < MAX_CPUS := fun cpu hcpu =>
  hw.cpus_lt cpu (Finset.mem_union_right _ hcpu)

theorem Hardware.WrittenIn.read_package (h : hw.WrittenIn files) (cpu : Nat) :
    readLongFile (files.physicalPackageId cpu) = hw.package cpu := by
  rw [h.package]
  cases hpackage : hw.package cpu with
  | none => rfl
  | some id =>
      obtain ⟨hlo, hhi⟩ := hw.package_fits cpu id hpackage
      exact readLongFile_toString hlo hhi

theorem Hardware.WrittenIn.read_cache (h : hw.WrittenIn files) (cpu : Nat) :
    ((files.cache cpu).filter fun entry => isIndexName entry.1).map (fun entry => entry.2.read) =
      (hw.caches cpu).map Cache.index := by
  calc ((files.cache cpu).filter fun entry => isIndexName entry.1).map (fun entry => entry.2.read)
      = (((files.cache cpu).filter fun entry => isIndexName entry.1).map Prod.snd).map CacheFiles.read := by
        rw [List.map_map]
        rfl
    _ = ((hw.caches cpu).map Cache.print).map CacheFiles.read := by rw [h.cache]
    _ = (hw.caches cpu).map Cache.index := by
        rw [List.map_map]
        refine List.map_congr_left fun cache hcache => ?_
        obtain ⟨hlevel, hid, -⟩ := hw.caches_fit cpu cache hcache
        exact Cache.print_read hlevel hid

-- The program reads what the kernel has written.
theorem Hardware.WrittenIn.read (h : hw.WrittenIn files) {fuel : Nat} (hfuel : 2 ^ 32 < fuel) :
    files.read fuel = some hw.sysfs := by
  have hmax : MAX_CPUS < 2 ^ 32 := by decide
  have honline := readCpulistFile_printSet hfuel fun cpu hcpu => (hw.online_lt cpu hcpu).trans hmax
  have hpossible := readCpulistFile_printSet hfuel fun cpu hcpu => (hw.possible_lt cpu hcpu).trans hmax
  have hne : hw.online.sort (· ≤ ·) ≠ [] := by
    obtain ⟨cpu, hcpu⟩ := hw.nonempty
    exact List.ne_nil_of_mem ((Finset.mem_sort _).mpr hcpu)
  unfold SysfsFiles.read Hardware.sysfs
  simp only [h.read_package, h.read_cache]
  rw [h.online, h.possible, honline, hpossible]
  cases hsort : hw.online.sort (· ≤ ·) with
  | nil => exact absurd hsort hne
  | cons cpu rest => rfl

-- The groups it makes of the caches are the caches.

theorem findCacheLevelDir_sysfs (hw : Hardware) (cpu level : Nat) :
    findCacheLevelDir hw.sysfs cpu level = ((hw.caches cpu).find? (·.level = level)).map Cache.index := by
  unfold findCacheLevelDir Hardware.sysfs
  rw [List.find?_map]
  congr 2
  funext cache
  simp [Cache.index]

def Cache.group (cache : Cache) : CacheGroup :=
  cache.id.elim (.byList cache.level (String.ofList (printSet cache.shared))) fun id => .byId cache.level id

theorem levelGroup_sysfs (hw : Hardware) (cpu level : Nat) :
    levelGroup hw.sysfs cpu level = ((hw.caches cpu).find? (·.level = level)).map Cache.group := by
  unfold levelGroup
  rw [findCacheLevelDir_sysfs]
  cases hfind : (hw.caches cpu).find? (·.level = level) with
  | none => rfl
  | some cache =>
      have hlevel : cache.level = level := by simpa using List.find?_some hfind
      subst hlevel
      unfold Cache.group
      cases hid : cache.id with
      | none => simp [Cache.index, hid]
      | some id => simp [Cache.index, hid]

theorem cacheGroup_sysfs (hw : Hardware) (cpu : Nat) :
    cacheGroup hw.sysfs cpu = ((hw.llc cpu).map Cache.group).getD .none := by
  have h3 := levelGroup_sysfs hw cpu 3
  have h2 := levelGroup_sysfs hw cpu 2
  unfold cacheGroup Hardware.llc
  rw [Option.map_or, ← h3, ← h2]
  rfl

theorem Cache.group_ne_none (cache : Cache) : cache.group ≠ .none := by
  unfold Cache.group
  cases cache.id <;> simp

theorem Cache.group_inj {a b : Cache} (ha : ∀ cpu ∈ a.shared, cpu < 2 ^ 32)
    (hb : ∀ cpu ∈ b.shared, cpu < 2 ^ 32) : a.group = b.group ↔ a.mark = b.mark := by
  have hshared : printSet a.shared = printSet b.shared ↔ a.shared = b.shared :=
    ⟨printSet_inj ha hb, congrArg printSet⟩
  unfold Cache.group Cache.mark
  cases a.id with
  | none => cases b.id <;> simp [String.ofList_inj, hshared]
  | some id => cases b.id <;> simp

theorem Hardware.llc_mem {hw : Hardware} {cpu : Nat} {cache : Cache} (h : hw.llc cpu = some cache) :
    cache ∈ hw.caches cpu := by
  unfold Hardware.llc at h
  rcases Option.or_eq_some_iff.mp h with h | ⟨-, h⟩
  · exact List.mem_of_find?_eq_some h
  · exact List.mem_of_find?_eq_some h

theorem Hardware.sameLlc_iff (hw : Hardware) (a b : Nat) : Lunar.SameLlc hw.sysfs a b ↔ hw.SameLlc a b := by
  refine and_congr Iff.rfl ?_
  rw [cacheGroup_sysfs, cacheGroup_sysfs]
  cases ha : hw.llc a with
  | none =>
      cases hb : hw.llc b with
      | none => simp
      | some cache => simp [(Cache.group_ne_none cache).symm]
  | some cache =>
      have hcache := hw.caches_fit a cache (Hardware.llc_mem ha)
      cases hb : hw.llc b with
      | none => simp [Cache.group_ne_none cache]
      | some cache' =>
          have hcache' := hw.caches_fit b cache' (Hardware.llc_mem hb)
          simpa using Cache.group_inj hcache.2.2 hcache'.2.2

end Written

theorem foldl_max_lt {l : List Nat} {first bound : Nat} (hfirst : first < bound)
    (hl : ∀ n ∈ l, n < bound) : l.foldl max first < bound := by
  induction l generalizing first with
  | nil => exact hfirst
  | cons n rest ih =>
      obtain ⟨hn, hrest⟩ := List.forall_mem_cons.mp hl
      exact ih (max_lt hfirst hn) hrest

-- nr_cpu_ids is no higher than the ids make it.
theorem readTopology_nrCpuIds_le {sysfs : Sysfs} {online : List Nat} (honline : sysfs.online = some online)
    {bound : Nat} (hbound : 0 < bound) (hids : ∀ cpu ∈ online ++ sysfs.possible.getD [], cpu < bound)
    {topo : Topology} (h : readTopology sysfs = .ok topo) : topo.nrCpuIds ≤ bound := by
  have hmax : online.foldl max ((idSource sysfs online).foldl max 0) < bound := by
    rw [← List.foldl_append]
    exact foldl_max_lt hbound fun cpu hcpu => hids cpu (mem_idSource.mp hcpu)
  unfold readTopology at h
  rw [honline] at h
  cases online with
  | nil => cases h
  | cons cpu rest =>
      have hread : ReadSoFar sysfs [] ([], ⟨((cpu :: rest).foldl max
          ((idSource sysfs (cpu :: rest)).foldl max 0) + 1) % 2 ^ 32, 0, fun _ => 0, fun _ => false⟩) :=
        ⟨rfl, by simp, by simp⟩
      have hnr := (readSoFar_foldl hread (cpu :: rest)).2
      cases h
      refine (Nat.le_of_eq hnr).trans ?_
      exact (Nat.mod_le _ _).trans hmax

theorem setupLunarTopology_ok {sysfs : Sysfs} {topo : Topology} (h : readTopology sysfs = .ok topo)
    (hmax : topo.nrCpuIds ≤ MAX_CPUS) (hllcs : topo.nrLlcs ≠ 0) (rodata : Rodata) :
    setupLunarTopology sysfs rodata = .ok
      { nrLlcs := topo.nrLlcs
        cpuToLlc := fun cpu => if cpu < topo.nrCpuIds then topo.cpuToLlc cpu else rodata.cpuToLlc cpu
        cpuOnline := fun cpu => if cpu < topo.nrCpuIds then topo.cpuOnline cpu else rodata.cpuOnline cpu } := by
  unfold setupLunarTopology
  rw [h]
  dsimp only
  rw [if_neg (Nat.not_lt.mpr hmax), if_neg hllcs]

-- From the kernel's files to what the scheduler looks up: the tables say which cpus are
-- online, and two of them have one LLC id if and only if they are in the same package and
-- share the L3, or the L2 where there is no L3.
theorem setup_as_written {hw : Hardware} {files : SysfsFiles} (h : hw.WrittenIn files) {fuel : Nat}
    (hfuel : 2 ^ 32 < fuel) :
    ∃ tables, setupFromFiles fuel files Rodata.zeroed = some (true, tables) ∧
      ∀ m : Machine, m.toRodata = tables →
        (∀ cpu < MAX_CPUS, cpuIsOnline m cpu ↔ cpu ∈ hw.online) ∧
        (∀ a ∈ hw.online, ∀ b ∈ hw.online, cpuLlcId m a = cpuLlcId m b ↔ hw.SameLlc a b) ∧
        ∀ llc, llc < m.nrLlcs ↔ ∃ cpu ∈ hw.online, cpuLlcId m cpu = llc := by
  have honline : hw.sysfs.online = some (hw.online.sort (· ≤ ·)) := rfl
  have hmem (cpu : Nat) : cpu ∈ hw.online.sort (· ≤ ·) ↔ cpu ∈ hw.online := Finset.mem_sort _
  have hne : hw.online.sort (· ≤ ·) ≠ [] := by
    obtain ⟨cpu, hcpu⟩ := hw.nonempty
    exact List.ne_nil_of_mem ((hmem cpu).mpr hcpu)
  have hids : ∀ cpu ∈ hw.online.sort (· ≤ ·) ++ hw.sysfs.possible.getD [], cpu < MAX_CPUS := by
    intro cpu hcpu
    rcases List.mem_append.mp hcpu with hcpu | hcpu
    · exact hw.online_lt cpu ((hmem cpu).mp hcpu)
    · exact hw.possible_lt cpu ((Finset.mem_sort _).mp hcpu)
  obtain ⟨topo, htopo, hread⟩ := readTopology_spec honline hne fun cpu hcpu =>
    (hids cpu hcpu).trans (by decide)
  have hmax := readTopology_nrCpuIds_le honline (by decide) hids htopo
  have hllcs : topo.nrLlcs ≠ 0 := by
    obtain ⟨cpu, hcpu⟩ := hw.nonempty
    have hkey := FirstSeen.idxOf_order_lt_length
      (List.mem_map_of_mem (f := fullKey hw.sysfs) ((hmem cpu).mpr hcpu))
    rw [hread.nrLlcs]
    exact Nat.ne_of_gt (Nat.zero_lt_of_lt hkey)
  obtain ⟨tables, hsetup, htables⟩ : ∃ tables, setupLunarTopology hw.sysfs Rodata.zeroed = .ok tables ∧
      ∀ m : Machine, m.toRodata = tables → TablesOk hw.sysfs (hw.online.sort (· ≤ ·)) topo m :=
    ⟨_, setupLunarTopology_ok htopo hmax hllcs Rodata.zeroed, fun m hm =>
      hread.tablesOk hne hmax (congrArg Rodata.nrLlcs hm) (congrFun (congrArg Rodata.cpuToLlc hm))
        (congrFun (congrArg Rodata.cpuOnline hm))⟩
  refine ⟨tables, ?_, fun m hm => ?_⟩
  · rw [setupFromFiles, h.read hfuel, Option.map_some, setupSkelRodata_eq, hsetup]
  · have hok := htables m hm
    refine ⟨fun cpu hcpu => (hok.onlineIff cpu hcpu).trans (hmem cpu), fun a ha b hb => ?_, fun llc => ?_⟩
    · exact (hok.sameLlc a ((hmem a).mpr ha) b ((hmem b).mpr hb)).trans (hw.sameLlc_iff a b)
    · simpa only [hmem] using hok.llcs llc

-- The cpus 0 and 1 share an L3, cpu 2 has an L2 of its own, and cpu 3 is offline.
def twoCaches : Hardware where
  online := Finset.range 3
  possible := Finset.range 4
  package := fun _ => some 0
  caches := fun cpu => if cpu < 2 then [⟨3, none, Finset.range 2⟩] else [⟨2, none, {2}⟩]
  nonempty := ⟨0, by decide⟩
  cpus_lt := by decide
  package_fits := by simp
  caches_fit := by
    intro cpu cache hcache
    split_ifs at hcache
    all_goals
      obtain rfl := List.mem_singleton.mp hcache
      decide

def twoCachesFiles : SysfsFiles where
  online := some "0-2\n".toList
  possible := some "0-3\n".toList
  physicalPackageId := fun _ => some "0\n".toList
  cache := fun cpu =>
    if cpu < 2 then
      [("uevent".toList, ⟨none, none, none⟩),
        ("index3".toList, ⟨some "3\n".toList, none, some "0-1\n".toList⟩)]
    else [("index2".toList, ⟨some "2\n".toList, none, some "2\n".toList⟩)]

theorem twoCaches_written : twoCaches.WrittenIn twoCachesFiles where
  online := by
    simp only [twoCaches, printSet, Finset.sort_range]
    decide +kernel
  possible := by
    simp only [twoCaches, printSet, Finset.sort_range]
    decide +kernel
  package _ := rfl
  cache cpu := by
    simp only [twoCaches, twoCachesFiles]
    split_ifs
    · simp only [List.map_cons, List.map_nil, Cache.print, printSet, Finset.sort_range]
      decide +kernel
    · simp only [List.map_cons, List.map_nil, Cache.print, printSet, Finset.sort_singleton]
      decide +kernel

theorem setup_as_written_twoCaches :
    ∃ tables, setupFromFiles (2 ^ 32 + 1) twoCachesFiles Rodata.zeroed = some (true, tables) ∧
      ∀ m : Machine, m.toRodata = tables →
        cpuLlcId m 0 = cpuLlcId m 1 ∧ cpuLlcId m 1 ≠ cpuLlcId m 2 ∧ cpuIsOnline m 3 = false := by
  obtain ⟨tables, hsetup, h⟩ := setup_as_written twoCaches_written (Nat.lt_succ_self (2 ^ 32))
  refine ⟨tables, hsetup, fun m hm => ?_⟩
  obtain ⟨honline, hllc, -⟩ := h m hm
  refine ⟨(hllc 0 (by decide) 1 (by decide)).mpr ⟨rfl, rfl⟩, fun he => ?_, ?_⟩
  · have hsame := ((hllc 1 (by decide) 2 (by decide)).mp he).2
    revert hsame
    decide
  · have h3 := honline 3 (by decide)
    simpa [twoCaches] using h3

end Lunar
