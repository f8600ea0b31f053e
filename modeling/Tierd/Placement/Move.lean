import Tierd.Data.FileSystem
import Tierd.Meta.Store

namespace Tierd.Placement

open Tierd.Data Tierd.Meta

/-- The arguments of `moveForPlacement`; `metaStore` is what `metaStoreFor`
returns for the pool, if anything. -/
structure MoveJob where
  namespaceID : UInt64
  rel : Path
  srcTier : String
  dstTier : String
  dstMount : String
  srcRank : Int
  destRank : Int
  metaStore : Option StoreConfig

inductive MoveFailure where
  | sourceNotMounted
  | destNotMounted
  | mkdirParent
  | statDest
  | compareDuplicate
  | unlinkStalled
  | destExists
  | statSource
  | copy
  | install
  | unlinkSource
deriving DecidableEq, Repr

def MoveFailure.message (job : MoveJob) (cause : String) : MoveFailure → String
  | .sourceNotMounted => "source tier " ++ job.srcTier ++ " is not mounted"
  | .destNotMounted => "destination tier " ++ job.dstTier ++ " is not mounted"
  | .mkdirParent => "mkdir dest parent: " ++ cause
  | .statDest => "stat dest: " ++ cause
  | .compareDuplicate => "compare stalled-move duplicate " ++ "/".intercalate job.rel ++ ": " ++ cause
  | .unlinkStalled => "unlink stalled src: " ++ cause
  | .destExists => "destination already exists: " ++ "/".intercalate (job.dstMount :: job.rel)
  | .statSource => "stat src: " ++ cause
  | .copy => "copy: " ++ cause
  | .install => "install tmp copy: " ++ cause
  | .unlinkSource => "unlink src after copy: " ++ cause

/-- `tmpPath`: the destination name with `.tierd-move` after it. -/
def tmpPath (rel : Path) : Path := rel.dropLast ++ [rel.getLastD "" ++ ".tierd-move"]

/-- How an `io.ReadFull` ended. -/
inductive ReadEnd where
  | full
  | eof
  | failed
deriving DecidableEq, Repr

/-- The source file as `os.Stat` and `Get` saw it: its inode, its modification
time, and its record if there was one. -/
structure SourceStat where
  ino : UInt64
  mtime : Int
  record : Option Record
deriving DecidableEq, Repr

/-- The next call. -/
inductive MovePc where
  | mountSource
  | mountDest
  | mkdirParent
  | lstatDest
  | statStalled (dstSize : Nat)
  | openStalled (source : SourceStat)
  | readStalledSource (source : SourceStat) (srcFile dstFile : UInt64) (offset : Nat)
  | readStalledDest (source : SourceStat) (srcFile dstFile : UInt64) (offset : Nat)
      (bytes : Bytes) (ending : ReadEnd)
  | getStalled (source : SourceStat)
  | unlinkStalled (source : SourceStat)
  | statSource
  | clearTmp (source : SourceStat)
  | getRecord (source : SourceStat)
  | openSource (source : SourceStat)
  | createTmp (source : SourceStat) (srcFile : UInt64)
  | copyChunk (source : SourceStat) (srcFile tmpFile : UInt64) (offset : Nat)
  | closeTmp (source : SourceStat)
  | chtimes (source : SourceStat)
  | linkDest (source : SourceStat)
  | unlinkTmp (source : SourceStat)
  | unlinkSource (source : SourceStat)
  | rollback
  | dropTmp (failure : MoveFailure)
  | statDest (source : SourceStat)
  | putRecord (source : SourceStat) (dstIno : UInt64)
  | deleteRecord (source : SourceStat)
  | done (result : Except MoveFailure Unit)
deriving DecidableEq

/-- No call is in flight. -/
def MovePc.idle : MovePc → Bool
  | .mountSource | .done _ => true
  | _ => false

/-- The two tiers are two filesystems. -/
structure MoveState where
  src : FileSystem
  dst : FileSystem
  store : PoolMetaStore
  pc : MovePc

/-- How the environment answers a call: whether it fails, the inode a create
gets, how many bytes a read or a copy handles, and the time. -/
structure Answer where
  fails : Bool
  ino : UInt64
  chunk : Nat
  now : Int
deriving DecidableEq, Repr

def compareChunkSize : Nat := 128 * 1024

/-- One `io.ReadFull` of `filesHaveSameContent`; a failing read may have
delivered some bytes. -/
def readFull (content : Bytes) (offset : Nat) (answer : Answer) : Bytes × ReadEnd :=
  let bytes := (content.drop offset).take compareChunkSize
  if answer.fails then (bytes.take answer.chunk, .failed)
  else (bytes, if bytes.length < compareChunkSize then .eof else .full)

inductive Compared where
  | differ
  | same
  | failed
  | more
deriving DecidableEq, Repr

/-- What `filesHaveSameContent` makes of one read of each file. -/
def compareReads (a b : Bytes × ReadEnd) : Compared :=
  if a.1 ≠ b.1 then .differ
  else if a.2 = .eof ∨ b.2 = .eof then if a.2 = b.2 then .same else .differ
  else if a.2 = .failed ∨ b.2 = .failed then .failed
  else .more

namespace MoveState

variable (state : MoveState)

def goto (pc : MovePc) : MoveState := { state with pc }

def fail (failure : MoveFailure) : MoveState := state.goto (.done (.error failure))

end MoveState

/-- The record handed to the destination tier. -/
def handedRecord (job : MoveJob) (source : SourceStat) (now : Int) : Record where
  version := recordVersion
  pinState := (source.record.getD Record.zero).pinState
  tierIdx := UInt8.ofInt job.destRank
  namespaceID := job.namespaceID
  heatCounter := (source.record.getD Record.zero).heatCounter
  lastAccessNS := UInt64.ofInt now

/-- `Get` of the source record; an error counts as no record. -/
def readRecord (job : MoveJob) (store : PoolMetaStore) (ino : UInt64) : Option Record × PoolMetaStore :=
  match job.metaStore with
  | none => (none, store)
  | some config =>
    match store.get config ino job.srcRank with
    | (.ok record, store) => (record, store)
    | (.error _, store) => (none, store)

section Step

variable (job : MoveJob) (state : MoveState) (answer : Answer)

/-- `os.Lstat` of the destination.  The planner only moves regular files; a
destination name of another kind is taken as a conflict. -/
def lstatDest : MoveState :=
  if answer.fails then state.fail .statDest
  else match state.dst.lookup job.rel with
    | none => state.goto .statSource
    | some (.file ino) => state.goto (.statStalled (state.dst.files ino).content.length)
    | some _ => state.fail .destExists

def statStalled (dstSize : Nat) : MoveState :=
  if answer.fails then state.fail .destExists
  else match state.src.lookup job.rel with
    | some (.file ino) =>
      let file := state.src.files ino
      if dstSize = file.content.length then state.goto (.openStalled ⟨ino, file.mtime, none⟩)
      else state.fail .destExists
    | _ => state.fail .destExists

def openStalled (source : SourceStat) : MoveState :=
  if answer.fails then state.fail .compareDuplicate
  else match state.src.lookup job.rel, state.dst.lookup job.rel with
    | some (.file srcFile), some (.file dstFile) =>
      state.goto (.readStalledSource source srcFile dstFile 0)
    | _, _ => state.fail .compareDuplicate

def readStalledDest (source : SourceStat) (srcFile dstFile : UInt64) (offset : Nat)
    (bytes : Bytes) (ending : ReadEnd) : MoveState :=
  match compareReads (bytes, ending) (readFull (state.dst.files dstFile).content offset answer) with
  | .differ => state.fail .destExists
  | .same => state.goto (.getStalled source)
  | .failed => state.fail .compareDuplicate
  | .more => state.goto (.readStalledSource source srcFile dstFile (offset + compareChunkSize))

def statSource : MoveState :=
  if answer.fails then state.fail .statSource
  else match state.src.lookup job.rel with
    | some (.file ino) => state.goto (.clearTmp ⟨ino, (state.src.files ino).mtime, none⟩)
    | _ => state.fail .statSource

def openSource (source : SourceStat) : MoveState :=
  if answer.fails then state.goto (.dropTmp .copy)
  else match state.src.lookup job.rel with
    | some (.file srcFile) => state.goto (.createTmp source srcFile)
    | _ => state.goto (.dropTmp .copy)

def createTmp (source : SourceStat) (srcFile : UInt64) : MoveState :=
  match state.dst.create (tmpPath job.rel) answer.ino answer.now with
  | some dst =>
    if answer.fails then state.goto (.dropTmp .copy)
    else { state with dst, pc := .copyChunk source srcFile answer.ino 0 }
  | none => state.goto (.dropTmp .copy)

/-- One round of `io.Copy`: some bytes further, or the end of the source. -/
def copyChunk (source : SourceStat) (srcFile tmpFile : UInt64) (offset : Nat) : MoveState :=
  if answer.fails then state.goto (.dropTmp .copy)
  else
    let bytes := ((state.src.files srcFile).content.drop offset).take (max 1 answer.chunk)
    if bytes = [] then state.goto (.closeTmp source)
    else { state with
      dst := state.dst.append tmpFile bytes answer.now
      pc := .copyChunk source srcFile tmpFile (offset + bytes.length) }

def chtimes (source : SourceStat) : MoveState :=
  match state.dst.lookup (tmpPath job.rel), answer.fails with
  | some (.file ino), false => { state with dst := state.dst.chtimes ino source.mtime, pc := .linkDest source }
  | _, _ => state.goto (.linkDest source)

def linkDest (source : SourceStat) : MoveState :=
  match state.dst.link (tmpPath job.rel) job.rel, answer.fails with
  | some dst, false => { state with dst, pc := .unlinkTmp source }
  | _, _ => state.goto (.dropTmp .install)

def unlinkTmp (source : SourceStat) : MoveState :=
  if answer.fails ∨ state.dst.lookup (tmpPath job.rel) = none then state.goto (.dropTmp .install)
  else { state with dst := state.dst.unlink (tmpPath job.rel), pc := .unlinkSource source }

/-- Where the machine goes after the source is gone. -/
def handoff (source : SourceStat) : MoveState :=
  match job.metaStore with
  | some _ => state.goto (.statDest source)
  | none => state.goto (.done (.ok ()))

def statDest (source : SourceStat) : MoveState :=
  match state.dst.lookup job.rel, answer.fails with
  | some (.file ino), false => state.goto (.putRecord source ino)
  | _, _ => state.goto (.deleteRecord source)

end Step

/-- `os.Remove` of a name: gone unless the call fails.  Whether a directory is
empty, and so goes as well, is part of the answer. -/
def removeName (fs : FileSystem) (path : Path) (answer : Answer) : FileSystem :=
  if answer.fails then fs else fs.unlink path

/-- One call. `forgetLowerInode` and logging take no step. -/
def moveStep (job : MoveJob) (state : MoveState) (answer : Answer) : MoveState :=
  match state.pc with
  | .mountSource =>
    if answer.fails then state.fail .sourceNotMounted else state.goto .mountDest
  | .mountDest => if answer.fails then state.fail .destNotMounted else state.goto .mkdirParent
  | .mkdirParent =>
    match state.dst.mkdirAll (parents job.rel), answer.fails with
    | some dst, false => { state with dst, pc := .lstatDest }
    | _, _ => state.fail .mkdirParent
  | .lstatDest => lstatDest job state answer
  | .statStalled dstSize => statStalled job state answer dstSize
  | .openStalled source => openStalled job state answer source
  | .readStalledSource source srcFile dstFile offset =>
    let read := readFull (state.src.files srcFile).content offset answer
    state.goto (.readStalledDest source srcFile dstFile offset read.1 read.2)
  | .readStalledDest source srcFile dstFile offset bytes ending =>
    readStalledDest state answer source srcFile dstFile offset bytes ending
  | .getStalled source =>
    let read := readRecord job state.store source.ino
    { state with store := read.2, pc := .unlinkStalled { source with record := read.1 } }
  | .unlinkStalled source =>
    if answer.fails then state.fail .unlinkStalled
    else handoff job { state with src := state.src.unlink job.rel } source
  | .statSource => statSource job state answer
  | .clearTmp source =>
    { state with dst := removeName state.dst (tmpPath job.rel) answer, pc := .getRecord source }
  | .getRecord source =>
    let read := readRecord job state.store source.ino
    { state with store := read.2, pc := .openSource { source with record := read.1 } }
  | .openSource source => openSource job state answer source
  | .createTmp source srcFile => createTmp job state answer source srcFile
  | .copyChunk source srcFile tmpFile offset => copyChunk state answer source srcFile tmpFile offset
  | .closeTmp source => if answer.fails then state.goto (.dropTmp .copy) else state.goto (.chtimes source)
  | .chtimes source => chtimes job state answer source
  | .linkDest source => linkDest job state answer source
  | .unlinkTmp source => unlinkTmp job state answer source
  | .unlinkSource source =>
    if answer.fails then state.goto .rollback
    else handoff job { state with src := state.src.unlink job.rel } source
  | .rollback =>
    { state with dst := removeName state.dst job.rel answer, pc := .done (.error .unlinkSource) }
  | .dropTmp failure =>
    { state with dst := removeName state.dst (tmpPath job.rel) answer, pc := .done (.error failure) }
  | .statDest source => statDest job state answer source
  | .putRecord source dstIno =>
    match job.metaStore with
    | some config => { state with
        store := state.store.putBlocking config dstIno job.destRank (handedRecord job source answer.now)
        pc := .deleteRecord source }
    | none => state.goto (.deleteRecord source)
  | .deleteRecord source =>
    match job.metaStore with
    | some config => { state with
        store := state.store.tryDelete config source.ino job.srcRank answer.fails
        pc := .done (.ok ()) }
    | none => state.goto (.done (.ok ()))
  | .done _ => state

/-- What is on disk and in memory, with `moveForPlacement` about to be called. -/
def MoveState.restart (state : MoveState) : MoveState := state.goto .mountSource

/-- A tier whose only file is `a`, under inode 7. -/
def oneFile (content : Bytes) : FileSystem :=
  ⟨(∅ : Std.ExtTreeMap Path Node).insert ["a"] (.file 7), fun _ => ⟨content, 0⟩⟩

def emptyTier : FileSystem := ⟨∅, fun _ => ⟨[], 0⟩⟩

/-- `a` is to go from the HDD tier to the NVMe tier. -/
def promotion : MoveJob :=
  ⟨1, ["a"], "HDD", "NVME", "/mnt/nvme", 2, 1, some StoreConfig.twoTiers⟩

def workingCall : Answer := ⟨false, 9, 2, 0⟩

end Tierd.Placement
