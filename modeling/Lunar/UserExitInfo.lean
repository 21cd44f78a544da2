import Lunar.Library.Run
import Mathlib.Algebra.Ring.Int.Defs
import Mathlib.Algebra.Ring.Nat

namespace Lunar

-- How lunar_exit tells userspace why the scheduler was taken out. A C string is what
-- stands before its first NUL, with one character for every byte.

def UEI_REASON_LEN : Nat := 128

def UEI_MSG_LEN : Nat := 1024

def UEI_DUMP_DFL_LEN : Nat := 32768

-- What the kernel hands to ops.exit.
structure ScxExitInfo where
  kind : Int
  exitCode : Int
  exitCpu : Int
  reason : String
  msg : String
  dump : String
deriving DecidableEq, Repr

-- The fields of it that the running kernel has.
structure ExitFields where
  exitCode : Bool
  exitCpu : Bool

-- The record both sides see, and the dump beside it.
structure UserExitInfo where
  kind : Int
  exitCpu : Int
  exitCode : Int
  reason : String
  msg : String
  dump : String
deriving DecidableEq, Repr

def UserExitInfo.zeroed : UserExitInfo := ⟨0, 0, 0, "", "", ""⟩

-- The copy ends with a NUL too.
def probeReadKernelStr (size : Nat) (src : String) : String := String.ofList (src.toList.take (size - 1))

-- The statements of UEI_RECORD in their order. The last one is a full barrier.
def ueiRecord (fields : ExitFields) (dumpLen : Nat) (ei : ScxExitInfo) : List (UserExitInfo → UserExitInfo) :=
  [fun uei => { uei with reason := probeReadKernelStr UEI_REASON_LEN ei.reason },
    fun uei => { uei with msg := probeReadKernelStr UEI_MSG_LEN ei.msg },
    fun uei => { uei with dump := probeReadKernelStr dumpLen ei.dump },
    fun uei => if fields.exitCode then { uei with exitCode := ei.exitCode } else uei,
    fun uei => { uei with exitCpu := -1 },
    fun uei => if fields.exitCpu then { uei with exitCpu := ei.exitCpu } else uei,
    fun uei => { uei with kind := ei.kind }]

-- What stands in the record of a scheduler that was just loaded after all of them.
def ueiRecorded (fields : ExitFields) (dumpLen : Nat) (ei : ScxExitInfo) : UserExitInfo where
  kind := ei.kind
  exitCpu := if fields.exitCpu then ei.exitCpu else -1
  exitCode := if fields.exitCode then ei.exitCode else 0
  reason := probeReadKernelStr UEI_REASON_LEN ei.reason
  msg := probeReadKernelStr UEI_MSG_LEN ei.msg
  dump := probeReadKernelStr dumpLen ei.dump

theorem finish_ueiRecord (fields : ExitFields) (dumpLen : Nat) (ei : ScxExitInfo) :
    Publication.finish .zeroed (ueiRecord fields dumpLen ei) = ueiRecorded fields dumpLen ei := by
  unfold ueiRecorded
  cases hcode : fields.exitCode with
  | true => cases hcpu : fields.exitCpu <;> simp [Publication.finish, ueiRecord, UserExitInfo.zeroed, hcode, hcpu]
  | false => cases hcpu : fields.exitCpu <;> simp [Publication.finish, ueiRecord, UserExitInfo.zeroed, hcode, hcpu]

-- UEI_EXITED looks at the kind.
def ueiExited (uei : UserExitInfo) : Prop := uei.kind ≠ 0

instance (uei : UserExitInfo) : Decidable (ueiExited uei) := inferInstanceAs (Decidable (_ ≠ _))

theorem ueiRecord_writing (fields : ExitFields) (dumpLen : Nat) (ei : ScxExitInfo) :
    Publication.Writing ueiExited (ueiRecorded fields dumpLen ei) .zeroed (ueiRecord fields dumpLen ei) := by
  rw [← finish_ueiRecord]
  refine .start (by decide) fun w hw uei hu => ?_
  have hkind : (w uei).kind = uei.kind := by
    simp only [ueiRecord, List.dropLast_cons_cons, List.dropLast_singleton, List.mem_cons, List.not_mem_nil,
      or_false] at hw
    rcases hw with rfl | rfl | rfl | rfl | rfl | rfl
    · rfl
    · rfl
    · rfl
    · cases hcode : fields.exitCode <;> simp
    · rfl
    · cases hcpu : fields.exitCpu <;> simp
  unfold ueiExited
  rwa [hkind]

-- The parts of the report that UEI_REPORT prints, in their order.
inductive ReportPart where
  | dump
  | reason
  | msg
  | exitCpu
  | newline
deriving DecidableEq, Repr

def reportRule : String :=
  "================================================================================"

def ReportPart.text (uei : UserExitInfo) : ReportPart → List String
  | .dump =>
      if uei.dump ≠ "" then
        ["\nDEBUG DUMP\n", reportRule ++ "\n\n", uei.dump, "\n" ++ reportRule ++ "\n\n"]
      else []
  | .reason => ["EXIT: " ++ uei.reason]
  | .msg => if uei.msg ≠ "" then [" (" ++ uei.msg ++ ")"] else []
  | .exitCpu => if uei.exitCpu ≥ 0 then [" on CPU " ++ toString uei.exitCpu] else []
  | .newline => ["\n"]

def reportParts : List ReportPart := [.dump, .reason, .msg, .exitCpu, .newline]

def ueiReport (uei : UserExitInfo) : List String := reportParts.flatMap (ReportPart.text uei)

def UEI_ECODE_SYS_ACT_MASK : Nat := (2 ^ 16 - 1) <<< 48

def SCX_ECODE_ACT_RESTART : Nat := 1 <<< 48

-- The signed exit code as a u64.
def ecodeOf (exitCode : Int) : Nat := (exitCode % 2 ^ 64).toNat

def ueiEcodeRestart (ecode : Nat) : Bool := ecode &&& UEI_ECODE_SYS_ACT_MASK == SCX_ECODE_ACT_RESTART

end Lunar
