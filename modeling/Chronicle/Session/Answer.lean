import Chronicle.Session.Misc
import Chronicle.Session.Decisions
import Chronicle.Session.Documents
import Chronicle.Session.Alias
import Chronicle.Session.System

/-! Answering a request on fresh state. -/

namespace Chronicle

namespace Session

/-- The answer to a request, before generated values are given stable names. -/
def answerRaw (req : Json) (ids : IdSource) : Json :=
  match Request.needText req "op" with
  | .error e => e
  | .ok op =>
    match op with
    | "misc" => (Misc.answer req ids).1
    | "aggregate" => Decisions.answer Instant.present req
    | "from_event" => (Documents.fromEvent req).merge
    | "envelope" => (Documents.envelope req).merge
    | "decode" => (Documents.decode req).merge
    | "journal" => (Documents.journal req).merge
    | "units" => (Units.answer req ids).merge
    | "system" => (System.answer req ids).merge
    | other => badInput ("unknown op '" ++ other ++ "'")

def answer (req : Json) : Json :=
  let ids : IdSource := { millis := Timestamp.now.unixMillis, taken := Aliases.idsIn req }
  let raw := answerRaw req ids
  (Aliases.rename raw (Aliases.ofRequest req)).1

end Session

end Chronicle
