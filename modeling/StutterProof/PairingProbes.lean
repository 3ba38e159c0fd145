import Mathlib.Data.List.Basic
import StutterProof.KeyedTable

/-! # The pairing probes

The eBPF handlers that pair a start with an end: a block request's issue with its completion, and
the start of a wait on a fence with its end.  The start is kept in a map until the end comes.  A
block request has the address of the request as its key, or a hash of its fields where the
tracepoint does not have the address; a wait has the identity of its fence.

An insert into a map may fail and so may the reservation of an event; a removal does not.  The
counters of dropped records are left out: nothing here reads them back. -/
namespace Stutter.Probes

/-- The record of a tracepoint: `read_at` of each width. -/
structure TracePointContext where
  readU32 : UInt32 → Option UInt32
  readU64 : UInt32 → Option UInt64
  readBytes8 : UInt32 → Option (List UInt8)

/-- `u64::saturating_sub`. -/
def saturatingSub64 (a b : UInt64) : UInt64 := if b ≤ a then a - b else 0

/-! ## Block requests -/

/-- An issued request, by its key. -/
structure IoStart where
  ts : UInt64
  tid : UInt32

/-- What userspace found out about the block tracepoints; an offset of 0 is a field they do not
have. -/
structure BlockOffsets where
  rqKey : UInt32
  issueNrSector : UInt32
  issueRwbs : UInt32
  completeNrSector : UInt32
  completeRwbs : UInt32

structure BlockIoEvent where
  kind : UInt32
  tid : UInt32
  dev : UInt32
  nrSector : UInt32
  sector : UInt64
  durationNs : UInt64
  timestampNs : UInt64
  rwbs : List UInt8

/-- `EVENT_BLOCK_IO`. -/
def eventBlockIo : UInt32 := 6

/-- `BLOCK_RQ_DEV_OFFSET`. -/
def blockRqDevOffset : UInt32 := 8

/-- `BLOCK_RQ_SECTOR_OFFSET`. -/
def blockRqSectorOffset : UInt32 := 16

/-- `block_rq_fallback_key`. -/
def blockRqFallbackKey (ctx : TracePointContext) (sector : UInt64) (dev : UInt32)
    (nrSectorOffset rwbsOffset : UInt32) : UInt64 :=
  let h := sector * 11400714819323198485 ^^^ dev.toUInt64 * 14029467366897019727
  let h :=
    if nrSectorOffset ≠ 0 then
      h ^^^ ((ctx.readU32 nrSectorOffset).getD 0).toUInt64 * 11500714819323198485
    else h
  if rwbsOffset ≠ 0 then h ^^^ (ctx.readU64 rwbsOffset).getD 0 * 11600714819323198485 else h

/-- `read_u32_or_zero`. -/
def readU32OrZero (ctx : TracePointContext) (offset : UInt32) : UInt32 :=
  if offset = 0 then 0 else (ctx.readU32 offset).getD 0

/-- The two fields that a handler of a block request reads first, or none. -/
def readBlockRq (ctx : TracePointContext) : Option (UInt32 × UInt64) := do
  let dev ← ctx.readU32 blockRqDevOffset
  let sector ← ctx.readU64 blockRqSectorOffset
  return (dev, sector)

section BlockRequests
variable (offsets : BlockOffsets)

/-- The request's own field where there is one, and the hash elsewhere. -/
def blockRqKey (ctx : TracePointContext) (dev : UInt32) (sector : UInt64)
    (nrSectorOffset rwbsOffset : UInt32) : UInt64 :=
  if offsets.rqKey ≠ 0 then (ctx.readU64 offsets.rqKey).getD 0
  else blockRqFallbackKey ctx sector dev nrSectorOffset rwbsOffset

/-- `try_block_rq_issue` of task `tid` at time `ts`; `target` is the filter's answer. -/
def tryBlockRqIssue (blockStart : Table UInt64 IoStart) (ctx : TracePointContext) (tid : UInt32)
    (target : Bool) (ts : UInt64) (inserted : Bool) : Table UInt64 IoStart :=
  match readBlockRq ctx with
  | none => blockStart
  | some (dev, sector) =>
    if !target then blockStart
    else
      let usingFallbackKey := offsets.rqKey == 0
      let key := blockRqKey offsets ctx dev sector offsets.issueNrSector offsets.issueRwbs
      if key = 0 then blockStart
      -- two requests with one hash cannot be told apart: both are dropped
      else if usingFallbackKey && (blockStart.get key).isSome then blockStart.remove key
      else if inserted then blockStart.insert key ⟨ts, tid⟩
      else blockStart

/-- `try_block_rq_complete` at time `now`. -/
def tryBlockRqComplete (blockStart : Table UInt64 IoStart) (ctx : TracePointContext) (now : UInt64)
    (reserved : Bool) : Table UInt64 IoStart × Option BlockIoEvent :=
  match readBlockRq ctx with
  | none => (blockStart, none)
  | some (dev, sector) =>
    let nrSector := readU32OrZero ctx offsets.completeNrSector
    let key := blockRqKey offsets ctx dev sector offsets.completeNrSector offsets.completeRwbs
    if key = 0 then (blockStart, none)
    else match blockStart.get key with
      | none => (blockStart, none)
      | some start =>
        let rwbs :=
          if offsets.completeRwbs ≠ 0 then
            (ctx.readBytes8 offsets.completeRwbs).getD (List.replicate 8 0)
          else List.replicate 8 0
        (blockStart.remove key,
          if reserved then
            some ⟨eventBlockIo, start.tid, dev, nrSector, sector, saturatingSub64 now start.ts, now,
              rwbs⟩
          else none)

/-- The key that an issue is kept under, if it can be kept at all. -/
def issueKey (ctx : TracePointContext) : Option UInt64 :=
  ((readBlockRq ctx).map fun (dev, sector) =>
    blockRqKey offsets ctx dev sector offsets.issueNrSector offsets.issueRwbs).filter (· ≠ 0)

/-- The key that a completion looks for. -/
def completeKey (ctx : TracePointContext) : Option UInt64 :=
  ((readBlockRq ctx).map fun (dev, sector) =>
    blockRqKey offsets ctx dev sector offsets.completeNrSector offsets.completeRwbs).filter (· ≠ 0)

end BlockRequests

/-! ## Waits on fences -/

structure FenceKey where
  context : UInt64
  seqno : UInt64
  deriving DecidableEq

/-- A wait that began. -/
structure FenceWaitStart where
  ts : UInt64
  pid : UInt32
  tid : UInt32
  provider : UInt32
  gpuRole : UInt32

/-- A signal of a fence. -/
structure FenceSignal where
  ts : UInt64
  provider : UInt32
  gpuRole : UInt32

/-- The offsets of one fence tracepoint. -/
structure FenceOffsets where
  context : UInt32
  seqno : UInt32
  timeline : UInt32

/-- What userspace found out about the fence tracepoints. -/
structure FenceConfig where
  waitStart : FenceOffsets
  waitDone : FenceOffsets
  signal : FenceOffsets
  waitStartProvider : UInt32
  waitStartGpuRole : UInt32
  signalProvider : UInt32
  signalGpuRole : UInt32

structure DrmFenceEvent where
  kind : UInt32
  eventKind : UInt32
  provider : UInt32
  flags : UInt32
  pid : UInt32
  tid : UInt32
  cpu : UInt32
  driverId : UInt32
  gpuRole : UInt32
  context : UInt64
  seqno : UInt64
  timelineHash : UInt64
  waitStartNs : UInt64
  waitDoneNs : UInt64
  signalNs : UInt64
  durationNs : UInt64
  timestampNs : UInt64

/-- `EVENT_DRM_FENCE`. -/
def eventDrmFence : UInt32 := 9

/-! `DRM_FENCE_EVENT_*`. -/

def drmFenceEventWaitDone : UInt32 := 2
def drmFenceEventSignal : UInt32 := 3
def drmFenceEventWaitInterval : UInt32 := 4

/-! `DRM_FENCE_HAS_*`, `DRM_FENCE_IS_*` and `DRM_FENCE_WAIT_DONE_WITHOUT_START`. -/

def drmFenceHasContext : UInt32 := 1
def drmFenceHasSeqno : UInt32 := 2
def drmFenceHasTimeline : UInt32 := 4
def drmFenceHasDuration : UInt32 := 8
def drmFenceHasPid : UInt32 := 16
def drmFenceIsImporterSide : UInt32 := 32
def drmFenceIsExporterSide : UInt32 := 64
def drmFenceWaitDoneWithoutStart : UInt32 := 128

structure FenceIdentity where
  key : FenceKey
  flags : UInt32
  timelineHash : UInt64

/-- `read_optional_u64`. -/
def readOptionalU64 (ctx : TracePointContext) (offset : UInt32) : Option UInt64 :=
  if offset = 0 then none else ctx.readU64 offset

/-- `fill_fence_identity`: none where it returns false. -/
def fillFenceIdentity (ctx : TracePointContext) (offsets : FenceOffsets) : Option FenceIdentity :=
  let context := readOptionalU64 ctx offsets.context
  match readOptionalU64 ctx offsets.seqno with
  | none => none
  | some seqno =>
    let timeline := (readOptionalU64 ctx offsets.timeline).filter (· ≠ 0)
    (context.or timeline).map fun keyContext =>
      { key := ⟨keyContext, seqno⟩
        flags := drmFenceHasSeqno ||| (if context.isSome then drmFenceHasContext else 0) |||
          (if timeline.isSome then drmFenceHasTimeline else 0)
        timelineHash := timeline.getD 0 }

/-- The two fence maps. -/
structure FenceMaps where
  waitStarts : Table FenceKey FenceWaitStart
  signalTimes : Table FenceKey FenceSignal

def FenceMaps.initial : FenceMaps := ⟨.empty, .empty⟩

/-- The calling thread, as `bpf_get_current_pid_tgid` gives it. -/
structure Caller where
  pid : UInt32
  tid : UInt32
  deriving DecidableEq

section FenceWaits
variable (config : FenceConfig) (maps : FenceMaps) (ctx : TracePointContext)

/-- The record of a wait's start. -/
def FenceConfig.startOf (caller : Caller) (now : UInt64) : FenceWaitStart :=
  ⟨now, caller.pid, caller.tid, config.waitStartProvider, config.waitStartGpuRole⟩

/-- `try_drm_fence_wait_start`. -/
def tryDrmFenceWaitStart (caller : Caller) (now : UInt64) (inserted : Bool) : FenceMaps :=
  match fillFenceIdentity ctx config.waitStart with
  | none => maps
  | some identity =>
    if inserted then
      { maps with waitStarts := maps.waitStarts.insert identity.key (config.startOf caller now) }
    else maps

/-- `try_drm_fence_wait_done`; the caller is not read. -/
def tryDrmFenceWaitDone (now : UInt64) (cpu : UInt32) (reserved : Bool) :
    FenceMaps × Option DrmFenceEvent :=
  match fillFenceIdentity ctx config.waitDone with
  | none => (maps, none)
  | some identity =>
    let signal := maps.signalTimes.get identity.key
    let signalProvider := (signal.map (·.provider)).getD
    let exporterFlag := if signal.isSome then drmFenceIsExporterSide else 0
    let event : DrmFenceEvent :=
      match maps.waitStarts.get identity.key with
      | some start =>
        { kind := eventDrmFence
          eventKind := drmFenceEventWaitInterval
          provider := start.provider
          flags := identity.flags ||| (drmFenceHasDuration ||| drmFenceHasPid |||
            drmFenceIsImporterSide ||| exporterFlag)
          pid := start.pid
          tid := start.tid
          cpu := cpu
          driverId := signalProvider start.provider
          gpuRole := start.gpuRole
          context := identity.key.context
          seqno := identity.key.seqno
          timelineHash := identity.timelineHash
          waitStartNs := start.ts
          waitDoneNs := now
          signalNs := (signal.map (·.ts)).getD 0
          durationNs := saturatingSub64 now start.ts
          timestampNs := now }
      | none =>
        { kind := eventDrmFence
          eventKind := drmFenceEventWaitDone
          provider := signalProvider 0
          flags := identity.flags ||| (drmFenceWaitDoneWithoutStart ||| drmFenceIsImporterSide |||
            exporterFlag)
          pid := 0
          tid := 0
          cpu := cpu
          driverId := signalProvider 0
          gpuRole := 0
          context := identity.key.context
          seqno := identity.key.seqno
          timelineHash := identity.timelineHash
          waitStartNs := 0
          waitDoneNs := now
          signalNs := (signal.map (·.ts)).getD 0
          durationNs := 0
          timestampNs := now }
    (⟨maps.waitStarts.remove identity.key, maps.signalTimes.remove identity.key⟩,
      if reserved then some event else none)

/-- `try_drm_fence_signal`. -/
def tryDrmFenceSignal (now : UInt64) (cpu : UInt32) (inserted reserved : Bool) :
    FenceMaps × Option DrmFenceEvent :=
  match fillFenceIdentity ctx config.signal with
  | none => (maps, none)
  | some identity =>
    let signal : FenceSignal := ⟨now, config.signalProvider, config.signalGpuRole⟩
    let event : DrmFenceEvent :=
      { kind := eventDrmFence
        eventKind := drmFenceEventSignal
        provider := config.signalProvider
        flags := identity.flags ||| drmFenceIsExporterSide
        pid := 0
        tid := 0
        cpu := cpu
        driverId := config.signalProvider
        gpuRole := config.signalGpuRole
        context := identity.key.context
        seqno := identity.key.seqno
        timelineHash := identity.timelineHash
        waitStartNs := 0
        waitDoneNs := 0
        signalNs := now
        durationNs := 0
        timestampNs := now }
    ({ maps with signalTimes :=
        if inserted then maps.signalTimes.insert identity.key signal else maps.signalTimes },
      if reserved then some event else none)

end FenceWaits

end Stutter.Probes
