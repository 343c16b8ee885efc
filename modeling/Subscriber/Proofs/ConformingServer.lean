import Subscriber.Link
import Subscriber.Proofs.Encoding

/-! A server that keeps to the protocol. It reads commands and answers them in the order in which they
came, each by one acknowledgement for every target or by one refusal, and may push messages in between. -/

namespace Subscriber

def Request.frame (request : Request) : Frame := (request.verb.command request.targets).frame

/-- What a server says to a connection that has subscribed. -/
inductive Remark where
  | message (channel payload : Bytes)
  | patternMessage (pattern channel payload : Bytes)
  | pong (payload : Bytes)
  | acknowledgement (verb : Verb) (target : Bytes) (count : Int64)
  | refusal (text : Bytes)

def Remark.frame : Remark → Frame
  | .message channel payload => .array [.bulk (some Push.messageWord), .bulk (some channel), .bulk (some payload)]
  | .patternMessage pattern channel payload =>
    .array [.bulk (some Push.patternMessageWord), .bulk (some pattern), .bulk (some channel), .bulk (some payload)]
  | .pong payload => .array [.bulk (some Push.pongWord), .bulk (some payload)]
  | .acknowledgement verb target count =>
    .array [.bulk (some verb.acknowledgement), .bulk (some target), .integer count]
  | .refusal text => .error text

/-- How far a server has come: its answers to the first commands, in order, and how many targets of the
next command it has acknowledged. -/
structure Server where
  given : List (Except Fault Unit) := []
  acknowledged : Nat := 0

namespace Server

/-- What a server may say next when it has read the commands so far. -/
inductive Utters (commands : List Frame) : Server → Remark → Server → Prop where
  | message {server channel payload} : Utters commands server (.message channel payload) server
  | patternMessage {server pattern channel payload} :
    Utters commands server (.patternMessage pattern channel payload) server
  | pong {server payload} : Utters commands server (.pong payload) server
  | acknowledges {server : Server} {verb targets target count}
      (next : commands[server.given.length]? = some (verb.command targets).frame)
      (more : server.acknowledged + 1 < targets.length) :
    Utters commands server (.acknowledgement verb target count) { server with acknowledged := server.acknowledged + 1 }
  | completes {server : Server} {verb targets target count}
      (next : commands[server.given.length]? = some (verb.command targets).frame)
      (last : server.acknowledged + 1 = targets.length) :
    Utters commands server (.acknowledgement verb target count) { given := server.given ++ [.ok ()] }
  | refuses {server : Server} {verb targets text}
      (next : commands[server.given.length]? = some (Command.frame (Verb.command verb targets)))
      (untouched : server.acknowledged = 0) (oneLine : Bytes.OneLine text) :
    Utters commands server (.refusal text) { given := server.given ++ [.error (.server (Text.lossy text))] }

theorem Utters.more {commands : List Frame} {server after : Server} {remark : Remark}
    (spoken : Utters commands server remark after) {later : List Frame} (longer : commands <+: later) :
    Utters later server remark after := by
  have still {index : Nat} {frame : Frame} (found : commands[index]? = some frame) : later[index]? = some frame := by
    obtain ⟨behind, rfl⟩ := longer
    obtain ⟨inside, same⟩ := List.getElem?_eq_some_iff.mp found
    rw [List.getElem?_append_left inside, found]
  cases spoken with
  | message => exact .message
  | patternMessage => exact .patternMessage
  | pong => exact .pong
  | acknowledges next more => exact .acknowledges (still next) more
  | completes next last => exact .completes (still next) last
  | refuses next untouched oneLine => exact .refuses (still next) untouched oneLine

private theorem Utters.lined {commands : List Frame} {server after : Server} {remark : Remark}
    (spoken : Utters commands server remark after) : remark.frame.Lined := by
  cases spoken with
  | refuses _ _ oneLine => exact oneLine
  | _ => simp [Remark.frame, Frame.Lined, Frame.LinedItems]

/-- The server after all of a transcript, which shows it after each remark. -/
def after (server : Server) (transcript : List (Remark × Server)) : Server :=
  transcript.foldl (fun _ entry => entry.2) server

/-- A transcript in which everything follows from what was said before. -/
def Conforms (commands : List Frame) : Server → List (Remark × Server) → Prop
  | _, [] => True
  | server, (remark, next) :: later => Utters commands server remark next ∧ Conforms commands next later

theorem conforms_append {commands : List Frame} {server : Server} {first last : List (Remark × Server)} :
    Conforms commands server (first ++ last) ↔
      Conforms commands server first ∧ Conforms commands (server.after first) last := by
  induction first generalizing server with
  | nil => simp [Conforms, after]
  | cons entry first ih =>
    simp only [List.cons_append, Conforms, ih, and_assoc]
    rfl

theorem Conforms.more {commands later : List Frame} {server : Server} {transcript : List (Remark × Server)}
    (conforms : Conforms commands server transcript) (longer : commands <+: later) :
    Conforms later server transcript := by
  induction transcript generalizing server with
  | nil => trivial
  | cons entry transcript ih => exact ⟨conforms.1.more longer, ih conforms.2⟩

def frames (transcript : List (Remark × Server)) : List Frame := transcript.map fun entry => entry.1.frame

theorem after_append (server : Server) (first last : List (Remark × Server)) :
    server.after (first ++ last) = (server.after first).after last := List.foldl_append

theorem frames_append (first last : List (Remark × Server)) : frames (first ++ last) = frames first ++ frames last :=
  List.map_append

theorem Conforms.lined {commands : List Frame} {server : Server} {transcript : List (Remark × Server)}
    (conforms : Conforms commands server transcript) : Frame.LinedItems (frames transcript) := by
  induction transcript generalizing server with
  | nil => trivial
  | cons entry transcript ih => exact ⟨conforms.1.lined, ih conforms.2⟩

end Server

theorem Remark.asRead_frame (remark : Remark) : remark.frame.asRead = remark.frame := by
  cases remark <;> rfl

theorem Server.asRead_frames (transcript : List (Remark × Server)) :
    (frames transcript).map Frame.asRead = frames transcript := by
  rw [frames, List.map_map]
  exact List.map_congr_left fun entry _ => entry.1.asRead_frame

def Remark.push : Remark → Push
  | .message channel payload => .message (.channel channel payload)
  | .patternMessage pattern channel payload => .message (.pattern pattern channel payload)
  | .pong _ => .pong
  | .acknowledgement verb _ _ => .acknowledgement verb
  | .refusal text => .refusal (Text.lossy text)

theorem Remark.ofFrame_frame (remark : Remark) : Push.ofFrame remark.frame = remark.push := by
  cases remark with
  | message channel payload => rfl
  | patternMessage pattern channel payload => rfl
  | pong payload => rfl
  | acknowledgement verb target count => cases verb <;> rfl
  | refusal text => rfl

private theorem Command.lined_frame (command : Command) : command.frame.Lined := by
  have inside (words : List Bytes) : Frame.LinedItems (words.map fun word => .bulk (some word)) := by
    induction words with
    | nil => trivial
    | cons word words ih => exact ⟨trivial, ih⟩
  exact inside command.words

private theorem Command.asRead_frame (command : Command) : command.frame.asRead = command.frame := by
  have inside (words : List Bytes) : Frame.asReadItems (words.map fun word => .bulk (some word)) =
      words.map fun word => .bulk (some word) := by
    induction words with
    | nil => rfl
    | cons word words ih => rw [List.map_cons, Frame.asReadItems, ih]; rfl
  rw [Command.frame, Frame.asRead, inside]

theorem Request.lined_frames (requests : List Request) : Frame.LinedItems (requests.map Request.frame) := by
  induction requests with
  | nil => trivial
  | cons request requests ih => exact ⟨Command.lined_frame _, ih⟩

theorem Request.asRead_frames (requests : List Request) :
    (requests.map Request.frame).map Frame.asRead = requests.map Request.frame := by
  rw [List.map_map]
  exact List.map_congr_left fun request _ => Command.asRead_frame _

end Subscriber
