import JointController.Library.CriticalSection
import JointController.Library.Runs
import Mathlib.Data.List.DropRight

/-!
# The lock of the robot commands

`RobotCommandGuard` holds an advisory lock on a file while a command moves or switches the robot.
The services run in several processes and threads; each has a guard of its own, and the file at the
path may be removed and created again.

* `Guard`: a guard, from the opening of the file to the end of the destructor.
* `GuardSystem`: the guards, the files, their locks and contents.
* `GuardSystem.step`: one system call of one guard, the end of a process, or the removal of the
  file.
* `OneFile`: while the file is removed only when no guard has it open, all guards lock one file.
* `guards_exclude`: then at most one guard is acquired, and one is refused exactly while another one
  holds the lock.
* `refusal_names_holder`: a refused guard names the holder of the lock, if its calls succeed.
-/

namespace JointController

namespace Power

open CriticalSection Runs

/-! ## Guards -/

/-- A guard.  It has `opened` the file, was `refused` the lock and is `rejected` then, or it has
`locked` the file, `emptied` it and is `acquired`.  Its destructor has `truncated` the file before
it unlocks it. -/
inductive Guard where
  | absent
  | opened (owner : String) (file : ℕ)
  | refused (file : ℕ)
  | rejected (error : String)
  | locked (owner : String) (file : ℕ)
  | emptied (owner : String) (file : ℕ)
  | acquired (owner : String) (file : ℕ)
  | truncated (file : ℕ)
  deriving DecidableEq

namespace Guard

/-- The file that the descriptor of a guard refers to. -/
def file : Guard → Option ℕ
  | absent | rejected _ => none
  | opened _ n | refused n | locked _ n | emptied _ n | acquired _ n | truncated n => some n

/-- The guard holds the lock of its file. -/
def Holds : Guard → Prop
  | locked _ _ | emptied _ _ | acquired _ _ | truncated _ => True
  | _ => False

instance : DecidablePred Holds
  | absent | opened _ _ | refused _ | rejected _ => .isFalse id
  | locked _ _ | emptied _ _ | acquired _ _ | truncated _ => .isTrue trivial

/-- The guard has written its owner to the file, if it has. -/
def owner : Guard → Option String
  | acquired owner _ => some owner
  | _ => none

end Guard

/-- The text that a guard writes to the file. -/
def ownerLabel (owner : String) : List Char := owner.toList ++ ['\n']

/-- `readOwner`: the first bytes of the file, without the ends of lines behind them. -/
def readOwner (content : List Char) : List Char :=
  (content.take 255).rdropWhile fun c => c == '\n' || c == '\r'

/-- The error of a guard that was refused. -/
def inProgress (content : List Char) : String :=
  "another robot command is already in progress" ++
    (if readOwner content = [] then "" else ": " ++ String.ofList (readOwner content))

/-- `kDefaultLockPath`. -/
def lockPath : String := "/tmp/joint_controller_robot_command.lock"

/-! ## The files -/

/-- The guards, and the files under the path, the present one and the ones that were removed. -/
structure GuardSystem (ι : Type) where
  guards : ι → Guard
  path : Option ℕ
  files : ℕ
  locked : ℕ → Bool
  content : ℕ → List Char

/-- One system call of one guard, which may fail, the end of a process, or `rm -f`. -/
inductive GuardLabel (ι : Type) where
  | openFile (i : ι) (owner : String) (failure : Option String)
  | flock (i : ι) (failure : Option String)
  | readOwner (i : ι) (fails : Bool)
  | truncate (i : ι) (fails : Bool)
  | write (i : ι) (fails : Bool)
  | destroy (i : ι) (fails : Bool)
  | unlock (i : ι)
  | kill (i : ι)
  | remove

namespace GuardSystem

variable {ι : Type}

/-- No guard, and what is left of the file from before. -/
def initial (left : Option (List Char)) : GuardSystem ι where
  guards _ := .absent
  path := left.map fun _ => 0
  files := 1
  locked _ := false
  content _ := left.getD []

variable (s : GuardSystem ι)

/-- One guard moves on. -/
def set [DecidableEq ι] (i : ι) (g : Guard) : GuardSystem ι :=
  { s with guards := Function.update s.guards i g }

/-- The lock of a file. -/
def setLock (n : ℕ) (b : Bool) : GuardSystem ι := { s with locked := Function.update s.locked n b }

/-- The content of a file, unless the call fails. -/
def setContent (n : ℕ) (text : List Char) (fails : Bool) : GuardSystem ι :=
  if fails then s else { s with content := Function.update s.content n text }

/-- `O_CREAT`: the file at the path, or a new one. -/
def create : GuardSystem ι :=
  if s.path.isSome then s
  else { s with
    path := some s.files
    files := s.files + 1
    content := Function.update s.content s.files [] }

end GuardSystem

namespace GuardSystem

variable {ι : Type} [DecidableEq ι] (s : GuardSystem ι) (i : ι)

/-- `open` in the constructor. -/
def openFile (owner : String) (failure : Option String) : Option (GuardSystem ι) :=
  if s.guards i = .absent then
    match failure with
    | some text => some (s.set i (.rejected
        ("cannot open robot command lock '" ++ lockPath ++ "': " ++ text)))
    | none => some (s.create.set i (.opened owner (s.path.getD s.files)))
  else none

/-- `flock(file_descriptor_, LOCK_EX | LOCK_NB)`. -/
def flock (failure : Option String) : Option (GuardSystem ι) :=
  match s.guards i, failure with
  | .opened _ _, some text =>
    some (s.set i (.rejected ("cannot acquire robot command lock: " ++ text)))
  | .opened owner n, none =>
    if s.locked n then some (s.set i (.refused n))
    else some ((s.setLock n true).set i (.locked owner n))
  | _, _ => none

/-- `readOwner` and the end of the constructor of a guard that was refused. -/
def readFile (fails : Bool) : Option (GuardSystem ι) :=
  match s.guards i with
  | .refused n => some (s.set i (.rejected (inProgress (if fails then [] else s.content n))))
  | _ => none

/-- `ftruncate` in the constructor.  Without it the owner is not written. -/
def truncate (fails : Bool) : Option (GuardSystem ι) :=
  match s.guards i with
  | .locked owner n =>
    some ((s.setContent n [] fails).set i (if fails then .acquired owner n else .emptied owner n))
  | _ => none

/-- `write` in the constructor. -/
def write (fails : Bool) : Option (GuardSystem ι) :=
  match s.guards i with
  | .emptied owner n =>
    some ((s.setContent n (ownerLabel owner) fails).set i (.acquired owner n))
  | _ => none

/-- `ftruncate` in the destructor.  It has nothing to do for a guard that was rejected. -/
def destroy (fails : Bool) : Option (GuardSystem ι) :=
  match s.guards i with
  | .acquired _ n => some ((s.setContent n [] fails).set i (.truncated n))
  | .rejected _ => some (s.set i .absent)
  | _ => none

/-- `LOCK_UN` and `close` in the destructor. -/
def unlock : Option (GuardSystem ι) :=
  match s.guards i with
  | .truncated n => some ((s.setLock n false).set i .absent)
  | _ => none

/-- The process of a guard ends, and its descriptors are closed. -/
def kill : Option (GuardSystem ι) :=
  match (s.guards i).file with
  | some n =>
    if (s.guards i).Holds then some ((s.setLock n false).set i .absent)
    else some (s.set i .absent)
  | none => some (s.set i .absent)

/-- One step. -/
def step : GuardLabel ι → Option (GuardSystem ι)
  | .openFile i owner failure => s.openFile i owner failure
  | .flock i failure => s.flock i failure
  | .readOwner i fails => s.readFile i fails
  | .truncate i fails => s.truncate i fails
  | .write i fails => s.write i fails
  | .destroy i fails => s.destroy i fails
  | .unlock i => s.unlock i
  | .kill i => s.kill i
  | .remove => some { s with path := none }

end GuardSystem

namespace GuardSystem

variable {ι : Type} (s : GuardSystem ι)

/-! ## The rules -/

/-- The file is removed only while no guard has it open. -/
def KeepsFile (s : GuardSystem ι) (l : GuardLabel ι) : Prop :=
  l = .remove → ∀ i, (s.guards i).file = none

/-- At most one guard holds the lock, and a guard is refused exactly while another one does. -/
structure Excludes (s : GuardSystem ι) (l : GuardLabel ι) (s' : GuardSystem ι) : Prop where
  exclusive : AtMostOne Guard.Holds s'.guards
  refused : ∀ i, l = .flock i none →
    ((s'.guards i).Holds ↔ ∀ j, ¬ (s.guards j).Holds)

/-- No call on the file fails, and no process ends that holds the lock. -/
def Undisturbed (s : GuardSystem ι) : GuardLabel ι → Prop
  | .truncate _ fails | .destroy _ fails => fails = false
  | .kill i => ¬ (s.guards i).Holds
  | _ => True

/-- A guard that was refused names the owner of the guard that holds the lock, or none. -/
def Names (s : GuardSystem ι) (l : GuardLabel ι) (s' : GuardSystem ι) : Prop :=
  ∀ i fails, l = .readOwner i fails →
    s'.guards i = .rejected (inProgress []) ∨
      ∃ j owner, (s.guards j).owner = some owner ∧
        s'.guards i = .rejected (inProgress (ownerLabel owner))

/-- A step that does not remove the file. -/
def keepsFile : GuardLabel ι → Bool
  | .remove => false
  | _ => true

theorem keepsFile_spec {l : GuardLabel ι} (hl : keepsFile l = true) : KeepsFile s l := by
  rintro rfl
  cases hl

/-- A step that does not disturb the file. -/
def undisturbed : GuardLabel ι → Bool
  | .remove | .kill _ => false
  | .truncate _ fails | .destroy _ fails => !fails
  | _ => true

theorem undisturbed_spec {l : GuardLabel ι} (hl : undisturbed l = true) :
    KeepsFile s l ∧ Undisturbed s l := by
  cases l with
  | truncate i fails | destroy i fails => exact ⟨by rintro ⟨⟩, (Bool.not_eq_true' _).mp hl⟩
  | kill i => cases hl
  | remove => cases hl
  | _ => exact ⟨by rintro ⟨⟩, trivial⟩

/-! ## One file -/

/-- The file at the path is locked. -/
def pathLocked : Bool := s.path.any s.locked

/-- Every open descriptor refers to the file at the path, and its lock excludes the guards. -/
structure OneFile (s : GuardSystem ι) : Prop where
  file : ∀ i n, (s.guards i).file = some n → s.path = some n
  exclusive : Exclusive Guard.Holds s.guards s.pathLocked
  path_lt : ∀ n, s.path = some n → n < s.files
  fresh : ∀ n, s.files ≤ n → s.locked n = false

variable {s} {i : ι} {g : Guard} {n : ℕ} {owner : String}

theorem oneFile_initial (left : Option (List Char)) : OneFile (initial left : GuardSystem ι) where
  file i n hfile := by cases hfile
  exclusive := by
    have hclear : (initial left : GuardSystem ι).pathLocked = false := by
      cases left <;> rfl
    rw [hclear]
    exact .empty fun _ hholds => hholds
  path_lt n hpath := by
    obtain ⟨-, -, rfl⟩ := Option.map_eq_some_iff.mp hpath
    exact Nat.one_pos
  fresh _ _ := rfl

/-- A guard that holds the lock has the file open. -/
theorem file_of_holds (hholds : g.Holds) : ∃ n, g.file = some n := by
  cases g with
  | absent | opened _ _ | refused _ | rejected _ => exact hholds.elim
  | locked _ n | emptied _ n | acquired _ n | truncated n => exact ⟨n, rfl⟩

theorem pathLocked_of_path (hpath : s.path = some n) : s.pathLocked = s.locked n := by
  unfold pathLocked
  rw [hpath]
  rfl

theorem setContent_guards (n : ℕ) (text : List Char) (fails : Bool) :
    (s.setContent n text fails).guards = s.guards := by
  unfold setContent
  split <;> rfl

theorem setContent_path (n : ℕ) (text : List Char) (fails : Bool) :
    (s.setContent n text fails).path = s.path := by
  unfold setContent
  split <;> rfl

theorem OneFile.setContent (hone : OneFile s) (text : List Char) (fails : Bool) :
    OneFile (s.setContent n text fails) := by
  unfold GuardSystem.setContent
  split
  · exact hone
  · exact ⟨hone.file, hone.exclusive, hone.path_lt, hone.fresh⟩

section

variable [DecidableEq ι]

theorem set_self (g : Guard) : (s.set i g).guards i = g := by
  unfold GuardSystem.set
  exact Function.update_self ..

theorem set_of_ne {j : ι} (hne : j ≠ i) : (s.set i g).guards j = s.guards j := by
  unfold GuardSystem.set
  exact Function.update_of_ne hne ..

/-- A guard moves on without a change of the lock. -/
theorem OneFile.set (hone : OneFile s) (hfile : ∀ n, g.file = some n → s.path = some n)
    (hholds : g.Holds ↔ (s.guards i).Holds) : OneFile (s.set i g) where
  file j n hj := by
    by_cases hij : j = i
    · rw [hij, set_self] at hj
      exact hfile n hj
    · rw [set_of_ne hij] at hj
      exact hone.file j n hj
  exclusive := hone.exclusive.stay hholds
  path_lt := hone.path_lt
  fresh := hone.fresh

/-- A guard that finds the lock free takes it. -/
theorem OneFile.lock (hone : OneFile s) (hopen : s.guards i = .opened owner n)
    (hfree : s.locked n = false) : OneFile ((s.setLock n true).set i (.locked owner n)) := by
  have hpath : s.path = some n := hone.file i n (by rw [hopen]; rfl)
  have hexclusive := hone.exclusive
  rw [pathLocked_of_path hpath, hfree] at hexclusive
  refine ⟨fun j m hj => ?_, ?_, hone.path_lt, fun m hm => ?_⟩
  · by_cases hij : j = i
    · rw [hij, set_self] at hj
      rw [← Option.some.inj hj]
      exact hpath
    · rw [set_of_ne hij] at hj
      exact hone.file j m hj
  · have hlocked : ((s.setLock n true).set i (.locked owner n)).pathLocked = true := by
      rw [pathLocked_of_path (s := (s.setLock n true).set i _) hpath]
      exact Function.update_self n true s.locked
    rw [hlocked]
    exact hexclusive.enter i trivial
  · have hne : m ≠ n := Nat.ne_of_gt (Nat.lt_of_lt_of_le (hone.path_lt n hpath) hm)
    show Function.update s.locked n true m = false
    rw [Function.update_of_ne hne]
    exact hone.fresh m hm

/-- The guard that holds the lock gives it back. -/
theorem OneFile.unlock (hone : OneFile s) (hfile : (s.guards i).file = some n)
    (hholds : (s.guards i).Holds) : OneFile ((s.setLock n false).set i .absent) := by
  have hpath : s.path = some n := hone.file i n hfile
  refine ⟨fun j m hj => ?_, ?_, hone.path_lt, fun m hm => ?_⟩
  · by_cases hij : j = i
    · rw [hij, set_self] at hj
      cases hj
    · rw [set_of_ne hij] at hj
      exact hone.file j m hj
  · have hfree : ((s.setLock n false).set i .absent).pathLocked = false := by
      rw [pathLocked_of_path (s := (s.setLock n false).set i _) hpath]
      exact Function.update_self n false s.locked
    rw [hfree]
    exact hone.exclusive.leave hholds fun habsent => habsent
  · show Function.update s.locked n false m = false
    by_cases hmn : m = n
    · rw [hmn, Function.update_self]
    · rw [Function.update_of_ne hmn]
      exact hone.fresh m hm

end

/-- The lock is free exactly if no guard holds it. -/
theorem OneFile.locked_eq_false_iff (hone : OneFile s) (hfile : (s.guards i).file = some n) :
    s.locked n = false ↔ ∀ j, ¬ (s.guards j).Holds := by
  rw [← pathLocked_of_path (hone.file i n hfile), ← Bool.not_eq_true, hone.exclusive.flagged,
    not_exists]

/-- The file at the path after it has been opened. -/
theorem create_path : s.create.path = some (s.path.getD s.files) := by
  unfold create
  cases hpath : s.path with
  | none => rfl
  | some n => exact hpath

theorem OneFile.create (hone : OneFile s) : OneFile s.create := by
  unfold GuardSystem.create
  split
  · exact hone
  · rename_i hnone
    have hpath : s.path = none := Option.not_isSome_iff_eq_none.mp hnone
    have hclosed : ∀ j, (s.guards j).file = none := by
      intro j
      cases hfile : (s.guards j).file with
      | none => rfl
      | some m =>
        have hsome := hone.file j m hfile
        rw [hpath] at hsome
        cases hsome
    refine ⟨fun j m hj => ?_, ?_, fun m hm => ?_, fun m hm =>
      hone.fresh m (Nat.le_of_succ_le hm)⟩
    · rw [hclosed j] at hj
      cases hj
    · have hfree : s.locked s.files = false := hone.fresh s.files le_rfl
      show Exclusive Guard.Holds s.guards (s.locked s.files)
      rw [hfree]
      refine .empty fun j hj => ?_
      obtain ⟨m, hm⟩ := file_of_holds hj
      rw [hclosed j] at hm
      cases hm
    · rw [← Option.some.inj hm]
      exact Nat.lt_succ_self _

/-! ## Steps -/

section

variable [DecidableEq ι]

/-- What a step does. -/
inductive Steps (s : GuardSystem ι) : GuardLabel ι → GuardSystem ι → Prop where
  | openFails {i : ι} (owner text : String) (habsent : s.guards i = .absent) :
    Steps s (.openFile i owner (some text)) (s.set i (.rejected
      ("cannot open robot command lock '" ++ lockPath ++ "': " ++ text)))
  | openFile {i : ι} (owner : String) (habsent : s.guards i = .absent) :
    Steps s (.openFile i owner none) (s.create.set i (.opened owner (s.path.getD s.files)))
  | flockFails {i : ι} {owner : String} {n : ℕ} (text : String)
      (hopen : s.guards i = .opened owner n) :
    Steps s (.flock i (some text))
      (s.set i (.rejected ("cannot acquire robot command lock: " ++ text)))
  | refuse {i : ι} {owner : String} {n : ℕ} (hopen : s.guards i = .opened owner n)
      (hlocked : s.locked n = true) : Steps s (.flock i none) (s.set i (.refused n))
  | lock {i : ι} {owner : String} {n : ℕ} (hopen : s.guards i = .opened owner n)
      (hfree : s.locked n = false) :
    Steps s (.flock i none) ((s.setLock n true).set i (.locked owner n))
  | readOwner {i : ι} {n : ℕ} (fails : Bool) (hrefused : s.guards i = .refused n) :
    Steps s (.readOwner i fails)
      (s.set i (.rejected (inProgress (if fails then [] else s.content n))))
  | truncate {i : ι} {owner : String} {n : ℕ} (fails : Bool)
      (hlocked : s.guards i = .locked owner n) :
    Steps s (.truncate i fails) ((s.setContent n [] fails).set i
      (if fails then .acquired owner n else .emptied owner n))
  | write {i : ι} {owner : String} {n : ℕ} (fails : Bool)
      (hemptied : s.guards i = .emptied owner n) :
    Steps s (.write i fails) ((s.setContent n (ownerLabel owner) fails).set i (.acquired owner n))
  | destroy {i : ι} {owner : String} {n : ℕ} (fails : Bool)
      (hacquired : s.guards i = .acquired owner n) :
    Steps s (.destroy i fails) ((s.setContent n [] fails).set i (.truncated n))
  | dispose {i : ι} {error : String} (fails : Bool) (hrejected : s.guards i = .rejected error) :
    Steps s (.destroy i fails) (s.set i .absent)
  | unlock {i : ι} {n : ℕ} (htruncated : s.guards i = .truncated n) :
    Steps s (.unlock i) ((s.setLock n false).set i .absent)
  | killHolder {i : ι} {n : ℕ} (hfile : (s.guards i).file = some n) (hholds : (s.guards i).Holds) :
    Steps s (.kill i) ((s.setLock n false).set i .absent)
  | kill {i : ι} (hnot : ¬ (s.guards i).Holds) : Steps s (.kill i) (s.set i .absent)
  | remove : Steps s .remove { s with path := none }

variable {l : GuardLabel ι} {s' : GuardSystem ι}

theorem steps_of_step (h : s.step l = some s') : Steps s l s' := by
  cases l with
  | openFile i owner failure =>
    obtain ⟨habsent, h⟩ := Option.ite_none_right_eq_some.mp h
    cases failure with
    | none =>
      obtain rfl := Option.some.inj h
      exact .openFile owner habsent
    | some text =>
      obtain rfl := Option.some.inj h
      exact .openFails owner text habsent
  | flock i failure =>
    change s.flock i failure = some s' at h
    unfold flock at h
    cases hguard : s.guards i with
    | opened owner n =>
      rw [hguard] at h
      cases failure with
      | none =>
        by_cases hlocked : s.locked n = true
        · obtain rfl := Option.some.inj ((if_pos hlocked).symm.trans h)
          exact .refuse hguard hlocked
        · obtain rfl := Option.some.inj ((if_neg hlocked).symm.trans h)
          exact .lock hguard (Bool.eq_false_iff.mpr hlocked)
      | some text =>
        obtain rfl := Option.some.inj h
        exact .flockFails text hguard
    | _ =>
      rw [hguard] at h
      cases h
  | readOwner i fails =>
    change s.readFile i fails = some s' at h
    unfold readFile at h
    cases hguard : s.guards i with
    | refused n =>
      rw [hguard] at h
      obtain rfl := Option.some.inj h
      exact .readOwner fails hguard
    | _ =>
      rw [hguard] at h
      cases h
  | truncate i fails =>
    change s.truncate i fails = some s' at h
    unfold truncate at h
    cases hguard : s.guards i with
    | locked owner n =>
      rw [hguard] at h
      obtain rfl := Option.some.inj h
      exact .truncate fails hguard
    | _ =>
      rw [hguard] at h
      cases h
  | write i fails =>
    change s.write i fails = some s' at h
    unfold write at h
    cases hguard : s.guards i with
    | emptied owner n =>
      rw [hguard] at h
      obtain rfl := Option.some.inj h
      exact .write fails hguard
    | _ =>
      rw [hguard] at h
      cases h
  | destroy i fails =>
    change s.destroy i fails = some s' at h
    unfold destroy at h
    cases hguard : s.guards i with
    | acquired owner n =>
      rw [hguard] at h
      obtain rfl := Option.some.inj h
      exact .destroy fails hguard
    | rejected error =>
      rw [hguard] at h
      obtain rfl := Option.some.inj h
      exact .dispose fails hguard
    | _ =>
      rw [hguard] at h
      cases h
  | unlock i =>
    change s.unlock i = some s' at h
    unfold unlock at h
    cases hguard : s.guards i with
    | truncated n =>
      rw [hguard] at h
      obtain rfl := Option.some.inj h
      exact .unlock hguard
    | _ =>
      rw [hguard] at h
      cases h
  | kill i =>
    change s.kill i = some s' at h
    unfold kill at h
    cases hfile : (s.guards i).file with
    | some n =>
      rw [hfile] at h
      by_cases hholds : (s.guards i).Holds
      · obtain rfl := Option.some.inj ((if_pos hholds).symm.trans h)
        exact .killHolder hfile hholds
      · obtain rfl := Option.some.inj ((if_neg hholds).symm.trans h)
        exact .kill hholds
    | none =>
      rw [hfile] at h
      obtain rfl := Option.some.inj h
      refine .kill fun hholds => ?_
      obtain ⟨n, hn⟩ := file_of_holds hholds
      rw [hfile] at hn
      cases hn
  | remove =>
    obtain rfl := Option.some.inj h
    exact .remove

/-- A guard that has the file open keeps it, and with it the lock or not. -/
theorem OneFile.move (hone : OneFile s) {fails : Bool} {text : List Char}
    (hfile : (s.guards i).file = some n) (hsame : ∀ m, g.file = some m → m = n)
    (hholds : g.Holds ↔ (s.guards i).Holds) : OneFile ((s.setContent n text fails).set i g) := by
  refine (hone.setContent text fails).set (fun m hm => ?_) ?_
  · rw [setContent_path, hsame m hm]
    exact hone.file i n hfile
  · rw [setContent_guards]
    exact hholds

theorem OneFile.step (hone : OneFile s) (hkeeps : KeepsFile s l) (h : s.step l = some s') :
    OneFile s' := by
  have hnone : ∀ m, (none : Option ℕ) = some m → s.path = some m := fun m hm => by cases hm
  cases steps_of_step h with
  | openFails owner text habsent =>
    exact hone.set hnone (by rw [habsent]; exact Iff.rfl)
  | openFile owner habsent =>
    refine hone.create.set (fun m hm => ?_) ?_
    · rw [create_path]
      exact hm
    · have hguards : s.create.guards = s.guards := by
        unfold GuardSystem.create
        split <;> rfl
      rw [hguards, habsent]
      exact Iff.rfl
  | flockFails text hopen => exact hone.set hnone (by rw [hopen]; exact Iff.rfl)
  | refuse hopen hlocked =>
    refine hone.set (fun m hm => ?_) (by rw [hopen]; exact Iff.rfl)
    rw [← Option.some.inj hm]
    exact hone.file _ _ (by rw [hopen]; rfl)
  | lock hopen hfree => exact hone.lock hopen hfree
  | readOwner fails hrefused => exact hone.set hnone (by rw [hrefused]; exact Iff.rfl)
  | truncate fails hlocked =>
    refine hone.move (by rw [hlocked]; rfl) (fun m hm => ?_) ?_
    · cases fails <;> exact (Option.some.inj hm).symm
    · rw [hlocked]
      cases fails <;> exact Iff.rfl
  | write fails hemptied =>
    exact hone.move (by rw [hemptied]; rfl) (fun m hm => (Option.some.inj hm).symm)
      (by rw [hemptied]; exact Iff.rfl)
  | destroy fails hacquired =>
    exact hone.move (by rw [hacquired]; rfl) (fun m hm => (Option.some.inj hm).symm)
      (by rw [hacquired]; exact Iff.rfl)
  | dispose fails hrejected => exact hone.set hnone (by rw [hrejected]; exact Iff.rfl)
  | unlock htruncated =>
    exact hone.unlock (by rw [htruncated]; rfl) (by rw [htruncated]; trivial)
  | killHolder hfile hholds => exact hone.unlock hfile hholds
  | kill hnot => exact hone.set hnone (iff_of_false (fun habsent => habsent) hnot)
  | remove =>
    have hclosed := hkeeps rfl
    refine ⟨fun j m hj => ?_, .empty fun j hj => ?_, fun m hm => (by cases hm), hone.fresh⟩
    · rw [hclosed j] at hj
      cases hj
    · obtain ⟨m, hm⟩ := file_of_holds hj
      rw [hclosed j] at hm
      cases hm

theorem OneFile.excludes (hone : OneFile s) (hkeeps : KeepsFile s l) (h : s.step l = some s') :
    Excludes s l s' where
  exclusive := (hone.step hkeeps h).exclusive.unique
  refused i hl := by
    subst hl
    cases steps_of_step h with
    | refuse hopen hlocked =>
      rw [set_self, ← hone.locked_eq_false_iff (by rw [hopen]; rfl), hlocked]
      exact iff_of_false (fun hrefused => hrefused) (by decide)
    | lock hopen hfree =>
      rw [set_self, ← hone.locked_eq_false_iff (by rw [hopen]; rfl)]
      exact iff_of_true trivial hfree

/-- In every run in which the file is removed only while no guard has it open, at most one guard
holds the lock, and a guard is refused exactly while another one does. -/
theorem guards_exclude (left : Option (List Char)) {ls : List (GuardLabel ι)}
    (hkeeps : Meets step KeepsFile (initial left) ls) :
    Throughout step Excludes (initial left) ls :=
  throughout_of_meets (I := OneFile) (fun _ _ _ hone hkeeps h => hone.step hkeeps h)
    (fun _ _ _ hone hkeeps h => hone.excludes hkeeps h) (oneFile_initial left) hkeeps

/-- Two commands: the second one is refused, names the first one, and is admitted after it. -/
def twoCommands : List (GuardLabel Bool) :=
  [.openFile false "joint_absolute_control" none, .flock false none,
    .openFile true "arm_control_mode_EFFORT" none, .truncate false false, .write false false,
    .flock true none, .readOwner true false, .destroy true false, .destroy false false,
    .unlock false, .openFile true "arm_control_mode_EFFORT" none, .flock true none]

theorem guards_exclude_twoCommands : Throughout step Excludes (initial none) twoCommands :=
  guards_exclude none (meets_of_passes (fun s _ hl => keepsFile_spec s hl) (by decide))

end

/-! ## The name in the file -/

/-- The file is empty, or it names a guard that is acquired. -/
def Labelled (s : GuardSystem ι) : Prop :=
  ∀ n, s.path = some n → s.content n = [] ∨
    ∃ j owner, (s.guards j).owner = some owner ∧ s.content n = ownerLabel owner

theorem Labelled.create (hlabelled : Labelled s) : Labelled s.create := by
  unfold GuardSystem.create
  split
  · exact hlabelled
  · intro n hpath
    refine Or.inl ?_
    show Function.update s.content s.files [] n = []
    rw [← Option.some.inj hpath, Function.update_self]

theorem Labelled.setLock (hlabelled : Labelled s) (n : ℕ) (b : Bool) : Labelled (s.setLock n b) :=
  hlabelled

section

variable [DecidableEq ι] {l : GuardLabel ι} {s' : GuardSystem ι}

/-- A guard that is not named moves on. -/
theorem Labelled.set (hlabelled : Labelled s) (howner : (s.guards i).owner = none) :
    Labelled (s.set i g) := by
  intro n hpath
  rcases hlabelled n hpath with hempty | ⟨j, owner, hj, hlabel⟩
  · exact Or.inl hempty
  · refine Or.inr ⟨j, owner, ?_, hlabel⟩
    rw [set_of_ne]
    · exact hj
    · rintro rfl
      rw [howner] at hj
      cases hj

/-- The file is emptied. -/
theorem labelled_empty (hpath : s.path = some n) (g : Guard) :
    Labelled ((s.setContent n [] false).set i g) := by
  intro m hm
  have hsame : m = n := Option.some.inj (hm.symm.trans hpath)
  refine Or.inl ?_
  show Function.update s.content n [] m = []
  rw [hsame, Function.update_self]

/-- The owner is written. -/
theorem labelled_write (hpath : s.path = some n) (owner : String) :
    Labelled ((s.setContent n (ownerLabel owner) false).set i (.acquired owner n)) := by
  intro m hm
  have hsame : m = n := Option.some.inj (hm.symm.trans hpath)
  refine Or.inr ⟨i, owner, ?_, ?_⟩
  · rw [set_self]
    rfl
  · show Function.update s.content n (ownerLabel owner) m = ownerLabel owner
    rw [hsame, Function.update_self]

theorem Labelled.step (hone : OneFile s) (hlabelled : Labelled s) (hquiet : Undisturbed s l)
    (h : s.step l = some s') : Labelled s' := by
  cases steps_of_step h with
  | openFails owner text habsent => exact hlabelled.set (by rw [habsent]; rfl)
  | @openFile i owner habsent =>
    refine hlabelled.create.set ?_
    have hguards : s.create.guards = s.guards := by
      unfold GuardSystem.create
      split <;> rfl
    rw [hguards, habsent]
    rfl
  | flockFails text hopen => exact hlabelled.set (by rw [hopen]; rfl)
  | refuse hopen hlocked => exact hlabelled.set (by rw [hopen]; rfl)
  | @lock i owner n hopen hfree =>
    refine (hlabelled.setLock n true).set ?_
    show (s.guards i).owner = none
    rw [hopen]
    rfl
  | readOwner fails hrefused => exact hlabelled.set (by rw [hrefused]; rfl)
  | @truncate i owner n fails hlocked =>
    obtain rfl : fails = false := hquiet
    exact labelled_empty (hone.file i n (by rw [hlocked]; rfl)) _
  | @write i owner n fails hemptied =>
    have hpath := hone.file i n (by rw [hemptied]; rfl)
    cases fails with
    | false => exact labelled_write hpath owner
    | true => exact hlabelled.set (by rw [hemptied]; rfl)
  | @destroy i owner n fails hacquired =>
    obtain rfl : fails = false := hquiet
    exact labelled_empty (hone.file i n (by rw [hacquired]; rfl)) _
  | dispose fails hrejected => exact hlabelled.set (by rw [hrejected]; rfl)
  | @unlock i n htruncated =>
    refine (hlabelled.setLock n false).set ?_
    show (s.guards i).owner = none
    rw [htruncated]
    rfl
  | killHolder hfile hholds => exact absurd hholds hquiet
  | @kill i hnot =>
    refine hlabelled.set ?_
    cases hguard : s.guards i with
    | acquired owner n =>
      rw [hguard] at hnot
      exact absurd trivial hnot
    | _ => rfl
  | remove =>
    intro n hpath
    cases hpath

theorem Labelled.names (hone : OneFile s) (hlabelled : Labelled s) (h : s.step l = some s') :
    Names s l s' := by
  intro i fails hl
  subst hl
  cases steps_of_step h with
  | @readOwner i n fails hrefused =>
    rw [set_self]
    cases fails with
    | true => exact Or.inl rfl
    | false =>
      rcases hlabelled n (hone.file i n (by rw [hrefused]; rfl)) with
        hempty | ⟨j, owner, hj, hlabel⟩
      · exact Or.inl (congrArg (fun text => Guard.rejected (inProgress text)) hempty)
      · exact Or.inr ⟨j, owner, hj,
          congrArg (fun text => Guard.rejected (inProgress text)) hlabel⟩

/-- If no call on the file fails and no process ends that holds the lock, a guard that was refused
names the guard that is acquired, and no command that is over. -/
theorem refusal_names_holder {left : Option (List Char)} (hleft : left.getD [] = [])
    {ls : List (GuardLabel ι)}
    (hquiet : Meets step (fun s l => KeepsFile s l ∧ Undisturbed s l) (initial left) ls) :
    Throughout step Names (initial left) ls :=
  throughout_of_meets (I := fun s => OneFile s ∧ Labelled s)
    (fun _ _ _ hs hquiet h => ⟨hs.1.step hquiet.1 h, hs.2.step hs.1 hquiet.2 h⟩)
    (fun _ _ _ hs _ h => hs.2.names hs.1 h)
    ⟨oneFile_initial left, fun _ _ => Or.inl hleft⟩ hquiet

theorem refusal_names_twoCommands : Throughout step Names (initial none) twoCommands :=
  refusal_names_holder rfl (meets_of_passes (fun s _ hl => undisturbed_spec s hl) (by decide))

end

end GuardSystem

end Power

end JointController
