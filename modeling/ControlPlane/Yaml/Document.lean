import ControlPlane.Yaml.Parser

/-!
# YAML documents

The third stage of reading a YAML text: the events of the first document are collected,
each with its mark. Anchors are resolved here: an alias becomes a pointer to the position of
the event it names. Reading stops at the first syntax error; the events before it are kept,
and the error is reported only if a later stage needs an event past it.

A text may hold only one document. Whether another follows is known once the first has
ended.
-/

namespace ControlPlane

namespace Yaml

/-- An event of a loaded document. -/
inductive Node where
  /-- An alias, pointing at the position of the anchored event. -/
  | alias (target : Nat)
  | scalar (text : String) (style : ScalarStyle) (tag : Option String)
  | seqStart | seqEnd | mapStart | mapEnd
  /-- The whole document of an empty stream. -/
  | void
  deriving Inhabited

/-- Why loading stopped early. -/
inductive LoadError where
  | malformed (e : SyntaxError)
  | unknownAnchor (mark : Mark)
  deriving Inhabited

/-- The first document of a text. -/
structure Document where
  events : Array (Node × Mark) := #[]
  error : Option LoadError := none
  /-- Whether something follows the first document. -/
  more : Bool := false
  deriving Inhabited

namespace Document

def followed (p : Parser) : Bool :=
  match nextEvent.run p with
  | .ok (some ⟨.streamEnd, _⟩, _) => false
  | .ok (none, _) => false
  | _ => true

/-- Collects events up to the end of the first document. -/
def collect : Nat → Parser → Document → List (String × Nat) → Document
  | 0, _, doc, _ => doc
  | fuel + 1, p, doc, anchors =>
    match nextEvent.run p with
    | .error e => { doc with error := some (.malformed e) }
    | .ok (none, _) => doc
    | .ok (some ev, p) =>
      let anchored (a : Option String) : List (String × Nat) :=
        match a with
        | some name => (name, doc.events.size) :: anchors
        | none => anchors
      let push (n : Node) : Document := { doc with events := doc.events.push (n, ev.start) }
      match ev.kind with
      | .streamStart | .documentStart => collect fuel p doc anchors
      | .streamEnd =>
        if doc.events.isEmpty then { doc with events := #[(.void, ev.start)] } else doc
      | .documentEnd => { doc with more := followed p }
      | .alias name =>
        match anchors.find? (·.1 == name) with
        | some (_, target) => collect fuel p (push (.alias target)) anchors
        | none => { doc with error := some (.unknownAnchor ev.start) }
      | .scalar a tag text style => collect fuel p (push (.scalar text style tag)) (anchored a)
      | .sequenceStart a _ => collect fuel p (push .seqStart) (anchored a)
      | .sequenceEnd => collect fuel p (push .seqEnd) anchors
      | .mappingStart a _ => collect fuel p (push .mapStart) (anchored a)
      | .mappingEnd => collect fuel p (push .mapEnd) anchors

/-- Loads the first document of a text. A character that may not stand in YAML fails before
anything is read. -/
def load (text : String) : Document :=
  match Scanner.badCharacter? text with
  | some offset =>
    let e : SyntaxError := { problem := "control characters are not allowed",
                             problemOffset := offset }
    { error := some (.malformed e) }
  | none =>
    let s := Scanner.start text
    collect (2 * s.fuel) { scanner := s } {} []

end Document

end Yaml

end ControlPlane
