import Crm.Ctrl.Told

/-!
# What CTRL asks of the dump plugin

| here | there |
| --- | --- |
| `DumpCall`  | `dump->read` and `dump->stop` (inc/plugins/dump.h) |
| `dumpCalls` | the calls made so far, newest first |
| `cellDumps` | those of one event |
-/

namespace Crm.Ctrl

open Lib

inductive DumpCall where
  | read (nodes : String)
  | stop
deriving DecidableEq, Repr

def dumpCallOf : CtrlObs → Option DumpCall
  | .dumpRead nodes => some (.read nodes)
  | .dumpStop => some .stop
  | _ => none

def dumpCalls (s : CtrlCtx) : List DumpCall := s.trace.filterMap dumpCallOf

def cellDumps (evt : CtrlEvent) (st : CtrlSt) (p : Option Payload) : List DumpCall :=
  if evt = .halMdmDump then [.read (dumpNodes p)]
  else if evt = .halMdmBusy ∧ st = .dumping then [.stop]
  else []

theorem dumpCalls_told (s : CtrlCtx) : dumpCalls s = (toldPlugins s).filterMap dumpCallOf := by
  show _ = (s.trace.filter CtrlObs.isTold).filterMap dumpCallOf
  rw [List.filterMap_filter]
  show s.trace.filterMap dumpCallOf = _
  congr 1
  funext o
  cases o <;> rfl

theorem cellDumps_told (evt : CtrlEvent) (st : CtrlSt) (p : Option Payload) :
    cellDumps evt st p = (cellTold evt st p).filterMap dumpCallOf := by
  unfold cellDumps cellTold
  split
  · rfl
  · split
    · rfl
    · split
      · rfl
      · split <;> rfl

/-- **The plugin is called by two cells.** -/
theorem dumpCalls_ctrlStep (s : CtrlCtx) (i : CtrlIn) :
    Returns (ctrlStep s i) fun s' => dumpCalls s' = cellDumps i.evt s.st i.payload ++ dumpCalls s := by
  refine (told_ctrlStep s i).imp fun s' hs' => ?_
  rw [dumpCalls_told, dumpCalls_told, cellDumps_told, ← List.filterMap_append, hs']

end Crm.Ctrl
