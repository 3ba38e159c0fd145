import StutterProof.EventLog
import StutterProof.ProfileRestore

/-! # The host of a restore

What a restore, and a commit of an affinity profile, read of the processes and set on the tasks.
Every answer of the host may depend on all that happened before, so that a task can exit, be
replaced or change between any two calls.  The log holds the calls with their answers, in order. -/
namespace Stutter.ProfileRestore

open ActiveConfig (CpuMask)
open Profiles (ReadError)

/-- The `stat` files that are read: of a process, or of a thread of it. -/
inductive StatPath where
  | process (pid : Nat)
  | task (pid tid : Nat)

/-- One call: the start time in a `stat` file, a task's allowed CPUs, or a set call. -/
inductive Event where
  | stat (path : StatPath) (answer : Except ReadError (Option Nat))
  | mask (tid : Nat) (answer : Except ReadError CpuMask)
  | setAffinity (tid : Nat) (mask : CpuMask) (answer : Except ReadError Unit)
  | setNice (tid : Nat) (nice : Int) (answer : Except ReadError Unit)
  | setIoprio (tid : Nat) (ioprio : Int) (answer : Except ReadError Unit)

def Event.isSet : Event → Bool
  | .stat .. | .mask .. => false
  | .setAffinity .. | .setNice .. | .setIoprio .. => true

abbrev Log := List Event

/-- The answers of `/proc` and of the setters. -/
structure Host where
  stat : Log → StatPath → Except ReadError (Option Nat)
  mask : Log → Nat → Except ReadError CpuMask
  setAffinity : Log → Nat → CpuMask → Except ReadError Unit
  setNice : Log → Nat → Int → Except ReadError Unit
  setIoprio : Log → Nat → Int → Except ReadError Unit

/-- `stat_starttime_at`. -/
def Host.readStat (host : Host) (path : StatPath) (log : Log) :
    Except ReadError (Option Nat) × Log :=
  let answer := host.stat log path
  (answer, log ++ [.stat path answer])

/-- `process_starttime_at`: a file that cannot be read has no start time. -/
def Host.processStarttimeAt (host : Host) (pid : Nat) (log : Log) : Option Nat × Log :=
  let (answer, log) := host.readStat (.process pid) log
  (answer.toOption.join, log)

/-- `affinity::read_allowed_mask`. -/
def Host.readAllowedMask (host : Host) (tid : Nat) (log : Log) : Except ReadError CpuMask × Log :=
  let answer := host.mask log tid
  (answer, log ++ [.mask tid answer])

/-- Reading adds one event to the log, and no set call. -/
theorem Host.readStat_eq (host : Host) (path : StatPath) (log : Log) :
    host.readStat path log = (host.stat log path, log ++ [.stat path (host.stat log path)]) := rfl

theorem Host.readAllowedMask_eq (host : Host) (tid : Nat) (log : Log) :
    host.readAllowedMask tid log = (host.mask log tid, log ++ [.mask tid (host.mask log tid)]) :=
      rfl

/-- A kind of set call: what the host answers, and the event it leaves. -/
structure Setter (α : Type) where
  answer : Host → Log → Nat → α → Except ReadError Unit
  event : Nat → α → Except ReadError Unit → Event

/-- `affinity::set_affinity`. -/
def affinitySetter : Setter CpuMask := ⟨Host.setAffinity, .setAffinity⟩

/-- `set_task_nice`. -/
def niceSetter : Setter Int := ⟨Host.setNice, .setNice⟩

/-- `set_task_ioprio`. -/
def ioprioSetter : Setter Int := ⟨Host.setIoprio, .setIoprio⟩

def Setter.call {α : Type} (setter : Setter α) (host : Host) (tid : Nat) (value : α) (log : Log) :
    Except ReadError Unit × Log :=
  let answer := setter.answer host log tid value
  (answer, log ++ [setter.event tid value answer])

/-- `libc::ENOENT`, the only code of `ErrorKind::NotFound`. -/
def isNotFound (error : ReadError) : Bool := error.rawOsError == some 2

/-! ## The identity of a record -/

/-- Whether a record's task is still there. -/
inductive RestoreRecordStatus where
  | verified | legacyUnverified | dead | identityMismatch

/-- `restore_identity_status_at`. -/
def restoreIdentityStatusAt (host : Host) (tid : Nat) (processPid processStarttimeTicks
    taskStarttimeTicks : Option Nat) (log : Log) : Except ReadError RestoreRecordStatus × Log :=
  match processPid, processStarttimeTicks, taskStarttimeTicks with
  | none, none, none => (.ok .legacyUnverified, log)
  | some pid, some processTicks, some taskTicks =>
    match host.readStat (.process pid) log with
    | (.error error, log) =>
      if isNotFound error then (.ok .dead, log)
      else (.error ⟨none,
        s!"failed to read process identity for TID {tid} via {pid}: {error.text}"⟩, log)
    | (.ok processStarttime, log) =>
      if processStarttime ≠ some processTicks then (.ok .identityMismatch, log)
      else
        match host.readStat (.task pid tid) log with
        | (.error error, log) =>
          if isNotFound error then (.ok .dead, log)
          else (.error ⟨none,
            s!"failed to read task identity for TID {tid} via {pid}: {error.text}"⟩, log)
        | (.ok taskStarttime, log) =>
          if taskStarttime ≠ some taskTicks then (.ok .identityMismatch, log)
          else (.ok .verified, log)
  | _, _, _ => (.ok .identityMismatch, log)

section Record
variable {α : Type}

/-- `restore_record_status`. -/
def restoreRecordStatus (host : Host) (record : RestoreRecord α) (log : Log) :
    Except ReadError RestoreRecordStatus × Log :=
  restoreIdentityStatusAt host record.tid record.processPid record.processStarttimeTicks
    record.taskStarttimeTicks log

/-- A record of the first format: it names a thread id only. -/
def RestoreRecord.Unidentified (record : RestoreRecord α) : Prop :=
  record.processPid = none ∧ record.processStarttimeTicks = none ∧ record.taskStarttimeTicks = none

/-- The last two calls read the record's process and thread, and found its start times. -/
def RestoreRecord.JustVerified (record : RestoreRecord α) (log : Log) : Prop :=
  ∃ earlier pid processTicks taskTicks, record.processPid = some pid ∧
    record.processStarttimeTicks = some processTicks ∧ record.taskStarttimeTicks = some taskTicks ∧
    log = earlier ++ [.stat (.process pid) (.ok (some processTicks)),
      .stat (.task pid record.tid) (.ok (some taskTicks))]

theorem RestoreRecord.JustVerified.append {record : RestoreRecord α} {reads : Log}
    (h : record.JustVerified reads) (log : Log) : record.JustVerified (log ++ reads) := by
  obtain ⟨earlier, pid, processTicks, taskTicks, hpid, hprocess, htask, rfl⟩ := h
  exact ⟨log ++ earlier, pid, processTicks, taskTicks, hpid, hprocess, htask,
    (List.append_assoc ..).symm⟩

/-- The calls of a check, by what the check says of the record. -/
structure RestoreRecord.Checked (record : RestoreRecord α) (reads : Log)
    (status : Except ReadError RestoreRecordStatus) : Prop where
  quiet : ∀ event ∈ reads, event.isSet = false
  verified : status = .ok .verified → record.JustVerified reads
  legacy : status = .ok .legacyUnverified → record.Unidentified

/-- **What the check of a record says**, with the calls it added. -/
theorem restoreRecordStatus_spec (host : Host) (record : RestoreRecord α) (log : Log) :
    ∃ reads status, restoreRecordStatus host record log = (status, log ++ reads) ∧
      record.Checked reads status := by
  unfold restoreRecordStatus restoreIdentityStatusAt
  split
  · rename_i hpid hprocess htask
    exact ⟨[], .ok .legacyUnverified, by rw [List.append_nil], by simp, nofun,
      fun _ => ⟨hpid, hprocess, htask⟩⟩
  · rename_i pid processTicks taskTicks hpid hprocess htask
    simp only [Host.readStat_eq]
    cases hstat : host.stat log (.process pid) with
    | error error =>
      simp only
      split
      · exact ⟨_, _, rfl, by simp [Event.isSet], nofun, nofun⟩
      · exact ⟨_, _, rfl, by simp [Event.isSet], nofun, nofun⟩
    | ok processStarttime =>
      simp only
      split
      · exact ⟨_, _, rfl, by simp [Event.isSet], nofun, nofun⟩
      · rename_i hsame
        obtain rfl := not_not.mp hsame
        generalize host.stat _ (.task pid record.tid) = answer
        rw [List.append_assoc]
        cases answer with
        | error error =>
          simp only
          split
          · exact ⟨_, _, rfl, by simp [Event.isSet], nofun, nofun⟩
          · exact ⟨_, _, rfl, by simp [Event.isSet], nofun, nofun⟩
        | ok taskStarttime =>
          simp only
          split
          · exact ⟨_, _, rfl, by simp [Event.isSet], nofun, nofun⟩
          · rename_i hsameTask
            obtain rfl := not_not.mp hsameTask
            exact ⟨_, _, rfl, by simp [Event.isSet], fun _ => ⟨[], pid, processTicks, taskTicks,
              hpid, hprocess, htask, rfl⟩, nofun⟩
  · exact ⟨[], .ok .identityMismatch, by rw [List.append_nil], by simp, nofun, nofun⟩

end Record

end Stutter.ProfileRestore
