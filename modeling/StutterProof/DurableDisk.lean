import StutterProof.FallibleOp

/-! # A disk and what of it survives

Files are inodes under names in directories.  A write or a new name is in memory until it is synced:
`fsync` of a file keeps its content, `fsync` of a directory keeps its names, and what is not synced
may be lost.  `Yields` says what a call leaves when it returns. -/
namespace Fallible.Op

variable {σ ε ε' α β : Type}

/-- What holds of the answer and the state of an operation that returns. -/
def Yields (m : Op σ ε α) (Q : α → σ → Prop) (s : σ) : Prop :=
  ∀ a, (m.run s).result = .ok a → Q a (m.run s).state

variable {Q : α → σ → Prop} {s : σ}

theorem yields_ret {a : α} (h : Q a s) : Yields (ret a : Op σ ε α) Q s := fun _ hb => by
  obtain rfl := Except.ok.inj hb
  exact h

theorem yields_fail {e : ε} : Yields (fail e : Op σ ε α) Q s := fun _ h => by cases h

theorem yields_ofExcept {r : Except ε α} (h : ∀ a, r = .ok a → Q a s) : Yields (ofExcept r) Q s := h

variable {m : Op σ ε α}

theorem Yields.mono {R : α → σ → Prop} (h : Yields m Q s) (hQR : ∀ a t, Q a t → R a t) :
    Yields m R s := fun a ha => hQR a _ (h a ha)

theorem Yields.bind {f : α → Op σ ε β} {R : β → σ → Prop} (h : Yields m Q s)
    (hf : ∀ a t, Q a t → Yields (f a) R t) : Yields (m >>= f) R s := by
  intro b hb
  obtain ⟨a, ha, hfa⟩ := result_bind_ok hb
  have hstate : ((m >>= f).run s).state = ((f a).run (m.run s).state).state := by
    simp [Bind.bind, andThen, ha]
  rw [hstate]
  exact hf a _ (h a ha) b hfa

theorem yields_attempt {Q : Except ε α → σ → Prop} (hok : Yields m (fun a t => Q (.ok a) t) s)
    (herror : ∀ e t, Q (.error e) t) : Yields (attempt m : Op σ ε' (Except ε α)) Q s := by
  intro r hr
  obtain rfl := Except.ok.inj hr
  change Q (m.run s).result (m.run s).state
  cases hm : (m.run s).result with
  | error e => exact herror e _
  | ok a => exact hok a hm

theorem Yields.zoom {τ : Type} {get : τ → σ} {set : σ → τ → τ} {t : τ} {Q : α → τ → Prop}
    (h : Yields m (fun a s => Q a (set s t)) (get t)) : Yields (zoom get set m) Q t := h

/-- A loop that returns went through every turn: what is left at each turn is told by the list so
far. -/
theorem yields_forEach {body : α → Op σ ε Unit} {P : List α → σ → Prop} {items : List α}
    (hbody : ∀ done a t, P done t → Yields (body a) (fun _ t' => P (done ++ [a]) t') t)
    (done : List α) (hs : P done s) :
    Yields (forEach body items) (fun _ t => P (done ++ items) t) s := by
  induction items generalizing done s with
  | nil =>
    refine yields_ret ?_
    rw [List.append_nil]
    exact hs
  | cons a rest ih =>
    refine Yields.bind (hbody done a s hs) fun _ t ht => ?_
    have hrest := ih _ ht
    rw [List.append_assoc] at hrest
    exact hrest

/-- What an operation keeps, whatever it answers. -/
def Keeps (m : Op σ ε α) (P : σ → Prop) : Prop := ∀ s, P s → P (m.run s).state

variable {P : σ → Prop}

theorem keeps_ret (a : α) : Keeps (ret a : Op σ ε α) P := fun _ h => h

theorem keeps_fail (e : ε) : Keeps (fail e : Op σ ε α) P := fun _ h => h

theorem keeps_ofExcept (r : Except ε α) : Keeps (ofExcept r : Op σ ε α) P := fun _ h => h

theorem Keeps.attempt (h : Keeps m P) :
    Keeps (attempt m : Op σ ε' (Except ε α)) P := h

theorem Keeps.bind {f : α → Op σ ε β} (hm : Keeps m P) (hf : ∀ a, Keeps (f a) P) :
    Keeps (m >>= f) P := by
  intro s hs
  change P (andThen m f |>.run s).state
  rw [andThen]
  dsimp only
  cases hr : (m.run s).result with
  | error e => exact hm s hs
  | ok a => exact hf a _ (hm s hs)

theorem keeps_forEach {body : α → Op σ ε Unit} (h : ∀ a, Keeps (body a) P) (items : List α) :
    Keeps (forEach body items) P := by
  induction items with
  | nil => exact keeps_ret ()
  | cons a rest ih => exact (h a).bind fun _ => ih

end Fallible.Op

namespace DurableDisk

open Fallible

/-- How a system call ends; a write that fails may have written something. -/
inductive Outcome where
  | done
  | failed (error : String) (written : Nat)

/-- What is written, and what is durable. -/
structure Disk (Dir Name Byte : Type) where
  io : List Outcome
  inodes : Nat
  entries : Dir → Name → Option Nat
  content : Nat → List Byte
  syncedEntries : Dir → Name → Option Nat
  syncedContent : Nat → List Byte

variable {Dir Name Byte α : Type} [DecidableEq Dir] [DecidableEq Name]

namespace Disk

variable (disk : Disk Dir Name Byte)

def drawn : Disk Dir Name Byte := { disk with io := disk.io.tail }

def setEntry (dir : Dir) (name : Name) (entry : Option Nat) : Disk Dir Name Byte :=
  { disk with entries := fun d n => if d = dir ∧ n = name then entry else disk.entries d n }

def setContent (inode : Nat) (bytes : List Byte) : Disk Dir Name Byte :=
  { disk with content := fun i => if i = inode then bytes else disk.content i }

omit [DecidableEq Dir] [DecidableEq Name] in
@[simp] theorem content_setContent (inode : Nat) (bytes : List Byte) :
    (disk.setContent inode bytes).content inode = bytes := if_pos rfl

omit [DecidableEq Dir] [DecidableEq Name] in
@[simp] theorem entries_setContent (inode : Nat) (bytes : List Byte) :
    (disk.setContent inode bytes).entries = disk.entries := rfl

@[simp] theorem entries_setEntry (dir : Dir) (name : Name) (entry : Option Nat) :
    (disk.setEntry dir name entry).entries dir name = entry := if_pos ⟨rfl, rfl⟩

/-- After a loss of power: what was synced. -/
def afterLoss : Disk Dir Name Byte :=
  { disk with entries := disk.syncedEntries, content := disk.syncedContent }

/-- What a name reads as. -/
def read (dir : Dir) (name : Name) : Option (List Byte) := (disk.entries dir name).map disk.content

end Disk

/-- A system call: what it does, what it leaves when it fails, and the context that its error
gets. -/
def sysCall (effect : Disk Dir Name Byte → α × Disk Dir Name Byte)
    (torn : Nat → Disk Dir Name Byte → Disk Dir Name Byte) (context : Option String) :
    Op (Disk Dir Name Byte) String α :=
  .act fun disk =>
    match disk.io.head?.getD .done with
    | .done => (.ok (effect disk.drawn).1, (effect disk.drawn).2)
    | .failed error written => (.error (context.getD error), torn written disk.drawn)

omit [DecidableEq Dir] [DecidableEq Name] in
theorem yields_sysCall {effect : Disk Dir Name Byte → α × Disk Dir Name Byte}
    {torn : Nat → Disk Dir Name Byte → Disk Dir Name Byte} {context : Option String}
    {Q : α → Disk Dir Name Byte → Prop} {disk : Disk Dir Name Byte}
    (h : Q (effect disk.drawn).1 (effect disk.drawn).2) :
    (sysCall effect torn context).Yields Q disk := by
  intro a ha
  rw [sysCall, Op.act] at ha ⊢
  dsimp only at ha ⊢
  cases hio : disk.io.head?.getD .done with
  | done =>
    rw [hio] at ha
    obtain rfl := Except.ok.inj ha
    exact h
  | failed error written =>
    rw [hio] at ha
    cases ha

/-- A file that is there is emptied; a new one gets a new inode. -/
def createFile (dir : Dir) (name : Name) : Option String → Op (Disk Dir Name Byte) String Nat :=
  sysCall
    (fun disk =>
      match disk.entries dir name with
      | some inode => (inode, disk.setContent inode [])
      | none =>
        (disk.inodes, ({ disk with
          inodes := disk.inodes + 1 }.setEntry dir name disk.inodes).setContent
          disk.inodes []))
    (fun _ disk => disk)

def writeAll (inode : Nat) (bytes : List Byte) :
    Option String → Op (Disk Dir Name Byte) String Unit :=
  sysCall (fun disk => ((), disk.setContent inode (disk.content inode ++ bytes)))
    (fun written disk => disk.setContent inode (disk.content inode ++ bytes.take written))

def syncFile (inode : Nat) : Option String → Op (Disk Dir Name Byte) String Unit :=
  sysCall
    (fun disk =>
      ((), { disk with
        syncedContent := fun i => if i = inode then disk.content i else disk.syncedContent i }))
    (fun _ disk => disk)

def rename (dir : Dir) (source target : Name) :
    Option String → Op (Disk Dir Name Byte) String Unit :=
  sysCall (fun disk => ((),
    (disk.setEntry dir source none).setEntry dir target (disk.entries dir source)))
    (fun _ disk => disk)

def syncDir (dir : Dir) : Option String → Op (Disk Dir Name Byte) String Unit :=
  sysCall
    (fun disk =>
      ((), { disk with
        syncedEntries := fun d => if d = dir then disk.entries d else disk.syncedEntries d }))
    (fun _ disk => disk)

/-- A call that changes no file: to open a directory, or to make sure that it is there. -/
def visit : Option String → Op (Disk Dir Name Byte) String Unit :=
  sysCall (fun disk => ((), disk)) (fun _ disk => disk)

end DurableDisk
