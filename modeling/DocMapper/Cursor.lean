import DocMapper.Fault

/-!
Cursors over the results of a search or a pipeline.  A cursor is read once: item by item, or all at
once from the start.  Once exhausted it stays so, and its source is not asked again.
-/

namespace DocMapper

/-- The results that a database still holds back, and how often it was asked for them.  A source
that fails keeps the error to show. -/
structure Source where
  pending : List Value
  failure : Option Fault := none
  error : Value := .null
  pulls : Int := 0
  drains : Int := 0
  deriving Inhabited

namespace Source

/-- The next document, none at the end; a failing source keeps its documents. -/
def pull (s : Source) : Source × Except Fault (Option Value) :=
  let asked := { s with pulls := s.pulls + 1 }
  match s.failure, s.pending with
  | some e, _ => (asked, .error e)
  | none, [] => (asked, .ok none)
  | none, d :: ds => ({ asked with pending := ds }, .ok (some d))

def drain (s : Source) : Source × Except Fault (List Value) :=
  let asked := { s with drains := s.drains + 1 }
  match s.failure with
  | some e => (asked, .error e)
  | none => ({ asked with pending := [] }, .ok s.pending)

end Source

/-- A cursor over what a database handed out: a source, or the promise of one.  What it delivers
goes through `hydrate` first.  Its lock, null until it is read, keeps readers apart. -/
structure Cursor where
  kind : CursorKind
  state : CursorState := .idle
  source : Value
  model : Value := .null
  hydrate : Value := .null
  lock : Value := .null
  deriving Inhabited

namespace Cursor

/-- The next document as it is stored; nothing, or a null document, is the end. -/
def pull (c : Cursor) (s : Source) : (Cursor × Source) × Except Fault (Option Value) :=
  match c.state with
  | .exhausted => ((c, s), .ok none)
  | _ =>
    match s.pull with
    | (s, .error e) => ((c, s), .error e)
    | (s, .ok none) => (({ c with state := .exhausted }, s), .ok none)
    | (s, .ok (some .null)) => (({ c with state := .exhausted }, s), .ok none)
    | (s, .ok (some d)) => (({ c with state := .streaming }, s), .ok (some d))

/-- All documents; a cursor that gave some of them already refuses. -/
def drain (c : Cursor) (s : Source) : (Cursor × Source) × Except Fault (List Value) :=
  match c.state with
  | .exhausted => ((c, s), .ok [])
  | .streaming => ((c, s), .error (.partlyStreamed c.kind.cls))
  | .idle =>
    match s.drain with
    | (s, .error e) => ((c, s), .error e)
    | (s, .ok ds) => (({ c with state := .exhausted }, s), .ok ds)

theorem pull_exhausted {c : Cursor} {s : Source} (h : c.state = .exhausted) :
    c.pull s = ((c, s), .ok none) := by
  simp [pull, h]

theorem drain_exhausted {c : Cursor} {s : Source} (h : c.state = .exhausted) :
    c.drain s = ((c, s), .ok []) := by
  simp [drain, h]

theorem drain_streaming {c : Cursor} {s : Source} (h : c.state = .streaming) :
    c.drain s = ((c, s), .error (.partlyStreamed c.kind.cls)) := by
  simp [drain, h]

end Cursor

end DocMapper
