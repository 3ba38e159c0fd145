import Mathlib.Data.List.Induction
import StutterProof.SyncTracker

/-! # What a recorded artifact survives

Every call that returns has synced the content of its file.  The name is synced with the directory,
by the first call for that directory; a call for one that the tracker holds leaves the names as they
are. -/
namespace Stutter.Recorder

open DurableDisk (Disk createFile rename syncDir syncFile visit writeAll yields_sysCall)
open Fallible (Op)
open Fallible.Op (Yields)

variable {path dir : Path} {name : String} {inode : Nat} {bytes : List UInt8}
    {start session : Session}

/-- A session in which a file is being written: its name, and its content so far. -/
structure Holding (start : Session) (dir : Path) (name : String) (inode : Nat) (bytes : List UInt8)
    (session : Session) : Prop where
  tracker : session.tracker = start.tracker
  names : session.disk.syncedEntries = start.disk.syncedEntries
  entry : session.disk.entries dir name = some inode
  content : session.disk.content inode = bytes

/-- The file is written, and its content is synced. -/
structure Kept (start : Session) (dir : Path) (name : String) (inode : Nat) (bytes : List UInt8)
    (session : Session) : Prop extends Holding start dir name inode bytes session where
  synced : session.disk.syncedContent inode = bytes

/-! ## System calls -/

variable (context : Option String)

theorem yields_createFile :
    Yields (onDisk (createFile dir name context))
      (fun inode session => Holding start dir name inode [] session) start := by
  refine Yields.zoom (yields_sysCall ?_)
  cases hentry : start.disk.entries dir name with
  | some inode =>
    have hdrawn : start.disk.drawn.entries dir name = some inode := hentry
    rw [hdrawn]
    exact ⟨rfl, rfl, hentry, Disk.content_setContent _ _ _⟩
  | none =>
    have hdrawn : start.disk.drawn.entries dir name = none := hentry
    rw [hdrawn]
    exact ⟨rfl, rfl, Disk.entries_setEntry _ _ _ _, Disk.content_setContent _ _ _⟩

theorem yields_writeAll {more : List UInt8} (h : Holding start dir name inode bytes session) :
    Yields (onDisk (writeAll inode more context))
      (fun _ session => Holding start dir name inode (bytes ++ more) session) session := by
  refine Yields.zoom (yields_sysCall ⟨h.tracker, h.names, h.entry, ?_⟩)
  have hcontent : session.disk.drawn.content inode = bytes := h.content
  change (session.disk.drawn.setContent inode (session.disk.drawn.content inode ++ more)).content
    inode = bytes ++ more
  rw [Disk.content_setContent, hcontent]

theorem yields_syncFile (h : Holding start dir name inode bytes session) :
    Yields (onDisk (syncFile inode context))
      (fun _ session => Kept start dir name inode bytes session) session := by
  refine Yields.zoom (yields_sysCall ⟨⟨h.tracker, h.names, h.entry, h.content⟩, ?_⟩)
  exact (if_pos rfl).trans h.content

theorem yields_rename {target : String} (h : Kept start dir name inode bytes session) :
    Yields (onDisk (rename dir name target context))
      (fun _ session => Kept start dir target inode bytes session) session := by
  refine Yields.zoom (yields_sysCall ⟨⟨h.tracker, h.names, ?_, h.content⟩, h.synced⟩)
  exact (Disk.entries_setEntry _ _ _ _).trans h.entry

/-! ## The tracker -/

/-- What a call that returns leaves of the names: those of a new directory are synced, and those of
one that the tracker held are as they were. -/
structure Reported (start : Session) (dir : Path) (name : String) (inode : Nat) (bytes : List UInt8)
    (session : Session) : Prop where
  entry : session.disk.entries dir name = some inode
  synced : session.disk.syncedContent inode = bytes
  tracked : dir ∈ session.tracker.syncedDirs
  first : dir ∉ start.tracker.syncedDirs → session.disk.syncedEntries dir name = some inode
  again : dir ∈ start.tracker.syncedDirs → session.disk.syncedEntries = start.disk.syncedEntries

theorem yields_syncParentOnce (hparent : path.parent = some dir)
    (h : Kept start dir name inode bytes session) :
    Yields (syncParentOnce path) (fun _ session => Reported start dir name inode bytes session)
      session := by
  rw [syncParentOnce, hparent]
  by_cases hheld : dir ∈ session.tracker.syncedDirs
  · have hstart : dir ∈ start.tracker.syncedDirs := h.tracker ▸ hheld
    have hinsert : Yields (insertDir dir)
        (fun new after => new = false ∧ after = session) session := by
      intro new hnew
      rw [insertDir, Op.act] at hnew ⊢
      dsimp only at hnew ⊢
      rw [if_pos hheld] at hnew ⊢
      exact ⟨(Except.ok.inj hnew).symm, rfl⟩
    refine hinsert.bind ?_
    rintro new after ⟨rfl, rfl⟩
    exact Op.yields_ret ⟨h.entry, h.synced, hheld, fun hnew => absurd hstart hnew, fun _ => h.names⟩
  · have hstart : dir ∉ start.tracker.syncedDirs := h.tracker ▸ hheld
    have hinsert : Yields (insertDir dir) (fun new after => new = true ∧
        after = { session with tracker := ⟨dir :: session.tracker.syncedDirs⟩ }) session := by
      intro new hnew
      rw [insertDir, Op.act] at hnew ⊢
      dsimp only at hnew ⊢
      rw [if_neg hheld] at hnew ⊢
      exact ⟨(Except.ok.inj hnew).symm, rfl⟩
    refine hinsert.bind ?_
    rintro new after ⟨rfl, rfl⟩
    have hopen : Yields (onDisk
        (visit (some s!"failed to open parent directory {Path.display dir} for sync")))
        (fun _ after => after.disk.entries dir name = some inode ∧
          after.disk.syncedContent inode = bytes ∧
          dir ∈ after.tracker.syncedDirs) { session with
            tracker := ⟨dir :: session.tracker.syncedDirs⟩ } :=
      Yields.zoom (yields_sysCall ⟨h.entry, h.synced, List.mem_cons_self⟩)
    refine hopen.bind ?_
    rintro - after ⟨hentry, hsynced, htracked⟩
    refine Yields.zoom (yields_sysCall ⟨hentry, hsynced, htracked, fun _ => ?_,
      fun hheld => absurd hheld hstart⟩)
    exact (congrFun (if_pos rfl) name).trans hentry

/-! ## The writers -/

theorem parent_of_fileName (h : path.fileName = some name) : path.parent = some path.dropLast := by
  cases path with
  | nil => cases h
  | cons first rest => rfl

/-- What every call that returns reports of its file. -/
def Reports (path : Path) (bytes : List UInt8) (start session : Session) : Prop :=
  ∃ name inode, path.fileName = some name ∧ Reported start path.dropLast name inode bytes session

/-- A call that has written its file. -/
def Written (path : Path) (bytes : List UInt8) (start session : Session) : Prop :=
  ∃ name inode, path.fileName = some name ∧ Kept start path.dropLast name inode bytes session

theorem yields_writeJsonFile (path : Path) (value : Value) (start : Session) :
    Yields (writeJsonFile path value)
      (fun _ session => Written path (value.pretty.toOption.getD [] ++ [newline]) start session)
        start := by
  rw [writeJsonFile]
  cases hname : path.fileName with
  | none => exact Op.yields_fail
  | some name =>
    refine (yields_createFile _).bind fun inode session hcreated => ?_
    have hpretty : Yields (Op.ofExcept value.pretty : Write (List UInt8)) (fun bytes session =>
        value.pretty = .ok bytes ∧ Holding start path.dropLast (name ++ ".tmp") inode [] session)
          session :=
      Op.yields_ofExcept fun bytes hbytes => ⟨hbytes, hcreated⟩
    refine hpretty.bind ?_
    rintro bytes session ⟨hbytes, hcreated⟩
    refine (yields_writeAll _ hcreated).bind fun _ session hwritten => ?_
    refine (yields_writeAll _ hwritten).bind fun _ session hended => ?_
    refine (yields_syncFile _ hended).bind fun _ session hsynced => ?_
    refine (yields_rename _ hsynced).mono fun _ session hrenamed => ?_
    refine ⟨name, inode, hname, ?_⟩
    rw [hbytes]
    exact hrenamed

theorem yields_push {value : Value} (h : Holding start dir name inode bytes session) :
    Yields (NdjsonWriter.push path inode value)
      (fun _ session => Holding start dir name inode (bytes ++ (value.compact ++ [newline]))
        session) session := by
  rw [← List.append_assoc]
  refine (yields_writeAll _ h).bind fun _ session hwritten => ?_
  cases value.failure with
  | none => exact yields_writeAll _ hwritten
  | some error => exact Op.yields_fail

theorem yields_writeJsonStreamFile (path : Path) (values : List Value) (start : Session) :
    Yields (writeJsonStreamFile path values)
      (fun _ session => Written path (values.flatMap fun value => value.compact ++ [newline]) start
        session) start := by
  rw [writeJsonStreamFile]
  cases hname : path.fileName with
  | none => exact Op.yields_fail
  | some name =>
    have hcreate : Yields (NdjsonWriter.create path name)
        (fun inode session => Holding start path.dropLast name inode [] session) start := by
      have hvisit : Yields (onDisk (visit none)) (fun _ session => session.tracker = start.tracker ∧
          session.disk.syncedEntries = start.disk.syncedEntries) start :=
        Yields.zoom (yields_sysCall ⟨rfl, rfl⟩)
      refine hvisit.bind ?_
      rintro - session ⟨htracker, hnames⟩
      refine (yields_createFile _).mono fun inode after hcreated => ?_
      exact ⟨hcreated.tracker.trans htracker, hcreated.names.trans hnames, hcreated.entry,
        hcreated.content⟩
    refine hcreate.bind fun inode session hcreated => ?_
    have hvalues : Yields (Op.forEach (NdjsonWriter.push path inode) values) (fun _ session =>
        Holding start path.dropLast name inode
          (values.flatMap fun value => value.compact ++ [newline]) session)
        session := by
      -- the content at each turn is that of the values so far
      refine Op.yields_forEach (P := fun (done : List Value) session =>
        Holding start path.dropLast name inode
        (done.flatMap fun value => value.compact ++ [newline]) session)
          (fun done value session hdone => ?_) [] hcreated
      rw [List.flatMap_append, List.flatMap_singleton]
      exact yields_push hdone
    have hwritten : Yields (Op.attempt (do
        Op.forEach (NdjsonWriter.push path inode) values
        NdjsonWriter.finish path inode : Write Unit) : Write (Except String Unit))
        (fun written session => written = .ok () → Kept start path.dropLast name inode
          (values.flatMap fun value => value.compact ++ [newline]) session) session := by
      refine Op.yields_attempt (hvalues.bind fun _ session hheld => ?_) fun _ _ h => by cases h
      exact (yields_syncFile _ hheld).mono fun _ _ hkept _ => hkept
    refine hwritten.bind fun written session hkept => ?_
    cases written with
    | error error => exact Yields.bind (fun _ _ => trivial) fun _ _ (_ : True) => Op.yields_fail
    | ok _ => exact Op.yields_ret ⟨name, inode, hname, hkept rfl⟩

variable (call : Call)

theorem yields_writeFile (start : Session) :
    Yields call.writeFile (fun _ session => Written call.path call.bytes start session) start := by
  cases call with
  | json path value => exact yields_writeJsonFile path value start
  | stream path values => exact yields_writeJsonStreamFile path values start

theorem perform_eq : call.perform = call.writeFile >>= fun _ => syncParentOnce call.path := by
  cases call <;> rfl

theorem yields_perform (start : Session) :
    Yields call.perform (fun _ session => Reports call.path call.bytes start session) start := by
  rw [perform_eq]
  refine (yields_writeFile call start).bind ?_
  rintro - session ⟨name, inode, hname, hkept⟩
  refine (yields_syncParentOnce (parent_of_fileName hname) hkept).mono fun _ session hreported => ?_
  exact ⟨name, inode, hname, hreported⟩

variable {P : SyncTracker → Prop}

/-! ## Only its own directory -/

theorem keeps_onDisk {α : Type} (call : Op (Disk Path String UInt8) String α) :
    Op.Keeps (onDisk call) fun session => P session.tracker := fun _ h => h

theorem keeps_syncParentOnce (path : Path)
    (hinsert : ∀ tracker parent, path.parent = some parent → P tracker →
      P ⟨parent :: tracker.syncedDirs⟩) :
    Op.Keeps (syncParentOnce path) fun session => P session.tracker := by
  rw [syncParentOnce]
  cases hparent : path.parent with
  | none => exact Op.keeps_ret ()
  | some parent =>
    have hkeeps : Op.Keeps (insertDir parent) fun session => P session.tracker := by
      intro session hsession
      rw [insertDir, Op.act]
      dsimp only
      split
      · exact hsession
      · exact hinsert session.tracker parent hparent hsession
    refine hkeeps.bind fun new => ?_
    cases new with
    | false => exact Op.keeps_ret ()
    | true => exact (keeps_onDisk _).bind fun _ => keeps_onDisk _

theorem keeps_writeFile : Op.Keeps call.writeFile fun session => P session.tracker := by
  cases call with
  | json path value =>
    change Op.Keeps (writeJsonFile path value) _
    rw [writeJsonFile]
    cases path.fileName with
    | none => exact Op.keeps_fail _
    | some name =>
      refine (keeps_onDisk _).bind fun file => (Op.keeps_ofExcept _).bind fun bytes => ?_
      exact (keeps_onDisk _).bind fun _ => (keeps_onDisk _).bind fun _ =>
        (keeps_onDisk _).bind fun _ =>
        keeps_onDisk _
  | stream path values =>
    change Op.Keeps (writeJsonStreamFile path values) _
    rw [writeJsonStreamFile]
    cases path.fileName with
    | none => exact Op.keeps_fail _
    | some name =>
      have hpush : ∀ file value, Op.Keeps (NdjsonWriter.push path file value) fun session =>
          P session.tracker := by
        intro file value
        refine (keeps_onDisk _).bind fun _ => ?_
        cases value.failure with
        | none => exact keeps_onDisk _
        | some error => exact Op.keeps_fail _
      refine Op.Keeps.bind ((keeps_onDisk _).bind fun _ => keeps_onDisk _) fun file => ?_
      refine Op.Keeps.bind
        (Op.Keeps.attempt ((Op.keeps_forEach (hpush file) values).bind fun _ => keeps_onDisk _)) ?_
      rintro (error | _)
      · exact Op.Keeps.bind (Op.Keeps.attempt (keeps_onDisk _)) fun _ => Op.keeps_fail _
      · exact Op.keeps_ret ()

theorem keeps_perform
    (hinsert : ∀ tracker parent, call.path.parent = some parent → P tracker →
      P ⟨parent :: tracker.syncedDirs⟩) :
    Op.Keeps call.perform fun session => P session.tracker := by
  rw [perform_eq]
  exact (keeps_writeFile call).bind fun _ => keeps_syncParentOnce call.path hinsert

/-- A call that fails before it comes to the directory leaves the tracker as it is. -/
theorem tracker_after_of_not_reached {call : Call} {session : Session}
    (h : ¬call.ReachesSync session) :
    (call.after session).tracker = session.tracker := by
  have hstate : call.after session = (call.writeFile.run session).state := by
    rw [Call.after, perform_eq]
    cases hresult : (call.writeFile.run session).result with
    | error error => simp [Bind.bind, Op.andThen, hresult]
    | ok _ => exact absurd hresult h
  rw [hstate]
  exact keeps_writeFile (P := fun tracker => tracker = session.tracker) call session rfl

/-! ## Sequences of calls -/

theorem sessionAfter_append (calls more : List Call) (start : Session) :
    sessionAfter (calls ++ more) start = sessionAfter more (sessionAfter calls start) :=
      List.foldl_append

/-- The tracker holds only directories that calls came to. -/
theorem tracked_of_calls {calls : List Call} {dir : Path} (hheld : dir ∉ start.tracker.syncedDirs)
    (hother : ∀ done call rest, calls = done ++ call :: rest → call.path.parent = some dir →
      ¬call.ReachesSync (sessionAfter done start)) :
    dir ∉ (sessionAfter calls start).tracker.syncedDirs := by
  induction calls using List.reverseRecOn with
  | nil => exact hheld
  | append_singleton calls call ih =>
    have hbefore :=
      ih fun done other rest heq => hother done other (rest ++ [call]) (by rw [heq]; simp)
    rw [sessionAfter_append]
    change dir ∉ (call.after (sessionAfter calls start)).tracker.syncedDirs
    by_cases hdir : call.path.parent = some dir
    · rw [tracker_after_of_not_reached (hother calls call [] rfl hdir)]
      exact hbefore
    · refine keeps_perform (P := fun tracker => dir ∉ tracker.syncedDirs) call ?_ _ hbefore
      rintro tracker parent hparent hnot
      rw [List.mem_cons]
      rintro (rfl | hmem)
      · exact hdir hparent
      · exact hnot hmem

/-- What the tracker holds it keeps. -/
theorem tracked_stays {calls : List Call} {dir : Path} (hheld : dir ∈ start.tracker.syncedDirs) :
    dir ∈ (sessionAfter calls start).tracker.syncedDirs := by
  induction calls generalizing start with
  | nil => exact hheld
  | cons call rest ih =>
    refine ih (keeps_perform (P := fun tracker => dir ∈ tracker.syncedDirs) call ?_ start hheld)
    exact fun tracker parent _ h => List.mem_cons_of_mem parent h

/-- A synced name of synced content is all that a loss of power leaves. -/
theorem survives_of_synced {disk : Disk Path String UInt8}
    (hcontent : ContentSynced disk path bytes) (hentry : EntrySynced disk path) :
    Survives disk path bytes := by
  obtain ⟨name, inode, hname, hfile, hsynced⟩ := hcontent
  intro other hother
  obtain rfl := Option.some.inj (hname.symm.trans hother)
  have hkept : disk.afterLoss.entries path.dropLast name = some inode :=
    (hentry name hname).trans hfile
  rw [Disk.read, hkept]
  exact congrArg some hsynced

/-- **What is durable when a call returns.**  The content of its file is synced.  If no call before
it came to the same directory, so is the name.  Once a call for the directory has returned, the
later ones do not sync it again. -/
theorem artifact_durable (disk : Disk Path String UInt8) (before : List Call) (call : Call)
    (hok : call.result (sessionAfter before ⟨disk, {}⟩) = .ok ()) :
    ContentSynced (sessionAfter (before ++ [call]) ⟨disk, {}⟩).disk call.path call.bytes ∧
    ((∀ done earlier rest, before = done ++ earlier :: rest →
      earlier.path.parent = call.path.parent →
        ¬earlier.ReachesSync (sessionAfter done ⟨disk, {}⟩)) →
      EntrySynced (sessionAfter (before ++ [call]) ⟨disk, {}⟩).disk call.path ∧
        Survives (sessionAfter (before ++ [call]) ⟨disk, {}⟩).disk call.path call.bytes) ∧
    ∀ done earlier rest, before = done ++ earlier :: rest → earlier.path.parent = call.path.parent →
      earlier.result (sessionAfter done ⟨disk, {}⟩) = .ok () →
        (sessionAfter (before ++ [call]) ⟨disk, {}⟩).disk.syncedEntries =
          (sessionAfter before ⟨disk, {}⟩).disk.syncedEntries := by
  have hafter : sessionAfter (before ++ [call]) ⟨disk, {}⟩ =
      call.after (sessionAfter before ⟨disk, {}⟩) :=
    sessionAfter_append before [call] _
  obtain ⟨name, inode, hname, hreported⟩ :=
    yields_perform call (sessionAfter before ⟨disk, {}⟩) () hok
  have hparent := parent_of_fileName hname
  have hcontent : ContentSynced (call.after (sessionAfter before ⟨disk, {}⟩)).disk call.path
      call.bytes :=
    ⟨name, inode, hname, hreported.entry, hreported.synced⟩
  rw [hafter]
  refine ⟨hcontent, fun hfirst => ?_, ?_⟩
  · have hnew : call.path.dropLast ∉ (sessionAfter before ⟨disk, {}⟩).tracker.syncedDirs :=
      tracked_of_calls List.not_mem_nil fun done earlier rest heq hdir =>
        hfirst done earlier rest heq (hdir.trans hparent.symm)
    have hentry : EntrySynced (call.after (sessionAfter before ⟨disk, {}⟩)).disk call.path := by
      intro other hother
      obtain rfl := Option.some.inj (hname.symm.trans hother)
      exact (hreported.first hnew).trans hreported.entry.symm
    exact ⟨hentry, survives_of_synced hcontent hentry⟩
  · rintro done earlier rest rfl hsame hearlier
    obtain ⟨other, _, hother, hdone⟩ :=
      yields_perform earlier (sessionAfter done ⟨disk, {}⟩) () hearlier
    have hdir : earlier.path.dropLast = call.path.dropLast :=
      Option.some.inj ((parent_of_fileName hother).symm.trans (hsame.trans hparent))
    refine hreported.again ?_
    rw [sessionAfter_append, ← hdir]
    change _ ∈ (sessionAfter rest (earlier.after (sessionAfter done ⟨disk, {}⟩))).tracker.syncedDirs
    exact tracked_stays hdone.tracked

/-- An empty disk on which every call succeeds. -/
def emptyDisk : Disk Path String UInt8 :=
  ⟨[], 0, fun _ _ => none, fun _ => [], fun _ _ => none, fun _ => []⟩

def sampleFile (path : Path) : Call := .json path ⟨.ok [1], [1], none⟩

/-- A disk that fails when the content of the second of these files is to be synced. -/
def failingDisk : Disk Path String UInt8 :=
  { emptyDisk with io := .replicate 10 .done ++ [.failed "EIO" 0] }

def earlierFiles : List Call :=
  [sampleFile ["config", "stutter.json"], sampleFile ["run", "session.json"]]

/-- After a file of another directory, and one of this directory that failed, a file and its name
are synced; the next one finds the directory in the tracker. -/
theorem artifact_durable_first :
    (ContentSynced (sessionAfter (earlierFiles ++ [sampleFile ["run", "session.json"]])
      ⟨failingDisk, {}⟩).disk
        ["run", "session.json"] [1, newline] ∧
      EntrySynced (sessionAfter (earlierFiles ++ [sampleFile ["run", "session.json"]]) ⟨failingDisk,
        {}⟩).disk
        ["run", "session.json"]) ∧
    (sessionAfter (earlierFiles ++ [sampleFile ["run", "session.json"]] ++
      [sampleFile ["run", "frames.json"]])
        ⟨failingDisk, {}⟩).disk.syncedEntries =
      (sessionAfter (earlierFiles ++ [sampleFile ["run", "session.json"]]) ⟨failingDisk,
        {}⟩).disk.syncedEntries := by
  have hfirst := artifact_durable failingDisk earlierFiles (sampleFile ["run", "session.json"]) rfl
  have hagain := artifact_durable failingDisk (earlierFiles ++ [sampleFile ["run", "session.json"]])
    (sampleFile ["run", "frames.json"]) rfl
  refine ⟨⟨hfirst.1, (hfirst.2.1 ?_).1⟩, hagain.2.2 earlierFiles _ [] rfl rfl rfl⟩
  intro done earlier rest heq hparent hreached
  rcases done with _ | ⟨other, _ | ⟨_, done⟩⟩
  · obtain ⟨rfl, -⟩ := List.cons.inj heq
    exact absurd hparent (by decide)
  · obtain ⟨rfl, hrest⟩ := List.cons.inj heq
    obtain ⟨rfl, -⟩ := List.cons.inj hrest
    cases hreached
  · simp [earlierFiles] at heq

/-- The second file of a directory returns, and its name is not synced. -/
theorem second_name_not_synced :
    ¬∀ (disk : Disk Path String UInt8) (before : List Call) (call : Call),
      call.result (sessionAfter before ⟨disk, {}⟩) = .ok () →
        ContentSynced (sessionAfter (before ++ [call]) ⟨disk, {}⟩).disk call.path call.bytes ∧
          EntrySynced (sessionAfter (before ++ [call]) ⟨disk, {}⟩).disk call.path := by
  intro h
  have hboth := h emptyDisk [.json ["run", "session.json"] ⟨.ok [1], [1], none⟩]
    (.json ["run", "metadata.json"] ⟨.ok [1], [1], none⟩) rfl
  have hsame := hboth.2 "metadata.json" rfl
  have hnone : (sessionAfter [.json ["run", "session.json"] ⟨.ok [1], [1], none⟩,
      .json ["run", "metadata.json"] ⟨.ok [1], [1], none⟩] ⟨emptyDisk, {}⟩).disk.syncedEntries
        ["run"]
      "metadata.json" = none := rfl
  have hsome : (sessionAfter [.json ["run", "session.json"] ⟨.ok [1], [1], none⟩,
      .json ["run", "metadata.json"] ⟨.ok [1], [1], none⟩] ⟨emptyDisk, {}⟩).disk.entries ["run"]
      "metadata.json" = some 1 := rfl
  exact absurd (hnone.symm.trans (hsame.trans hsome)) (by simp)

end Stutter.Recorder
