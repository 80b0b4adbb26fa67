import Glyphcast.Proofs.Hub.Run
import Glyphcast.Proofs.Playback.Bare
import Glyphcast.Proofs.Recording.Head

/-!
# A playback that is asked for

A request is refused because of its name, because the file is not there or cannot be read, or
because of what the file holds, and in each case the hub stays as it is: its player, in the middle
of a wait or not, goes on as if nobody had asked. Nothing else can stand in the way of a request, so
a recording whose head is complete is played from whatever state.

## Two moments

Reading a file takes time, and a playback that is under way goes on meanwhile. So a request is
divided here in two: `findRecording` is what it reads from the disk, at first, and `playFound` is
what it does with that, later on and to a hub in which any wait may have ended since. A request that
is answered as soon as its file is read is the one that the hub carries out.
-/

namespace Glyphcast

open Recording (Header Tagged Marked firstLine)

private theorem Playback.Reader.eq_of_load_error {τ : Type} {reader after : Playback.Reader τ}
    {path : String} {data : Bytes} {fault : FormatError}
    (refused : reader.load path data = (.error fault, after)) : after = reader := by
  unfold load at refused
  split at refused
  · cases refused
    rfl
  · nomatch refused

namespace Hub

variable {δ ρ : Type} {first hub : Hub δ ρ} {filename : String}

/-! ## Reading first, playing later -/

/-- What is read for a request: the path that the name stands for, and the bytes that are there. -/
def findRecording (hub : Hub δ ρ) (filename : String) : Except HubError (String × Bytes) :=
  match Recording.resolve? hub.config.recordingsDir filename with
  | none => .error (.playback ("invalid recording name " ++ Text.quote filename))
  | some path =>
    match hub.recorder.folder.disk.read path with
    | .error cause => .error (.playback (Error.io cause).message)
    | .ok data => .ok (path, data)

/-- What is done with it: the bytes are loaded in place of what is being played, and started. -/
def playFound (hub : Hub δ ρ) (found : Except HubError (String × Bytes)) (id : Nat)
    (number : SeatNumber) : Except HubError Unit × Hub δ ρ :=
  match found with
  | .error refusal => (.error refusal, hub)
  | .ok (path, data) =>
    match hub.player.load path data with
    | (.error fault, player) =>
      (.error (.playback (Error.format fault).message), { hub with player })
    | (.ok _, player) =>
      match player.start number with
      | (.error error, player) => (.error (.playback error.message), { hub with player })
      | (.ok (), player) => (.ok (), { hub with player, playbackOwner := some id })

section

variable (hub) (id : Nat) (number : SeatNumber)

theorem playFound_of_fault {fault : FormatError} {data : Bytes}
    (head : Header.read data = .error fault) (path : String) :
    hub.playFound (.ok (path, data)) id number =
      (.error (.playback (Error.format fault).message), hub) := by
  have refused : hub.player.load path data = (.error fault, hub.player) := by
    rw [Playback.Reader.load, head]
  rw [playFound, refused]

theorem playFound_of_head {header : Header} {body data : Bytes}
    (head : Header.read data = .ok (header, body)) (path : String) :
    hub.playFound (.ok (path, data)) id number =
      (.ok (), { hub with
        player := ((hub.player.load path data).2.start number).2
        playbackOwner := some id }) := by
  have loaded : hub.player.load path data = (.ok header, (hub.player.load path data).2) := by
    rw [Playback.Reader.load, head]
  have ready : (hub.player.load path data).2.status = .loaded := by
    rw [Playback.Reader.load_of_read head]
  have started : (hub.player.load path data).2.start number =
      (.ok (), ((hub.player.load path data).2.start number).2) := by
    rw [Playback.Reader.start, ready]
  rw [playFound, loaded]
  dsimp only
  rw [started]

theorem startPlayback_eq_playFound (filename : String) :
    hub.startPlayback filename id number =
      hub.playFound (hub.findRecording filename) id number := by
  unfold startPlayback loadRecording findRecording
  cases Recording.resolve? hub.config.recordingsDir filename with
  | none => rfl
  | some path =>
    dsimp only
    cases hub.recorder.folder.disk.read path with
    | error cause => rfl
    | ok data =>
      rw [playFound]
      dsimp only [Except.mapError, Bind.bind, Except.bind]
      rcases loaded : hub.player.load path data with ⟨_ | _, player⟩
      · obtain rfl := Playback.Reader.eq_of_load_error loaded
        rfl
      · rfl

end

/-! ## Why a request is refused -/

/-- Why a request is refused, and with which words. -/
inductive Refuses (hub : Hub δ ρ) (filename : String) : HubError → Prop
  /-- The name stands for no file of the folder. -/
  | name (unresolved : Recording.resolve? hub.config.recordingsDir filename = none) :
    Refuses hub filename (.playback ("invalid recording name " ++ Text.quote filename))
  /-- There is no such file, or it cannot be read. -/
  | unreadable {path : String} {cause : IoError}
    (resolved : Recording.resolve? hub.config.recordingsDir filename = some path)
    (unread : hub.recorder.folder.disk.read path = .error cause) :
    Refuses hub filename (.playback (Error.io cause).message)
  /-- It does not begin with the tag. -/
  | untagged {path : String} {data : Bytes}
    (resolved : Recording.resolve? hub.config.recordingsDir filename = some path)
    (read : hub.recorder.folder.disk.read path = .ok data) (untagged : ¬Tagged data) :
    Refuses hub filename
      (.playback (Error.format (.badTag (Text.decodeLossy (firstLine data)))).message)
  /-- It has no marker before its frames. -/
  | unmarked {path : String} {data : Bytes}
    (resolved : Recording.resolve? hub.config.recordingsDir filename = some path)
    (read : hub.recorder.folder.disk.read path = .ok data) (tagged : Tagged data)
    (unmarked : ¬Marked data) :
    Refuses hub filename (.playback (Error.format .missingFramesMarker).message)

/-- The file that a name stands for has a complete head. -/
def Playable (hub : Hub δ ρ) (filename path : String) (data : Bytes) : Prop :=
  Recording.resolve? hub.config.recordingsDir filename = some path ∧
    hub.recorder.folder.disk.read path = .ok data ∧ Tagged data ∧ Marked data

/-- Whatever the folder holds, one of the two is the case. -/
theorem refuses_or_playable (hub : Hub δ ρ) (filename : String) :
    (∃ refusal, hub.Refuses filename refusal) ∨ ∃ path data, hub.Playable filename path data := by
  cases resolved : Recording.resolve? hub.config.recordingsDir filename with
  | none => exact .inl ⟨_, .name resolved⟩
  | some path =>
    cases read : hub.recorder.folder.disk.read path with
    | error cause => exact .inl ⟨_, .unreadable resolved read⟩
    | ok data =>
      by_cases tagged : Tagged data
      · by_cases marked : Marked data
        · exact .inr ⟨path, data, resolved, read, tagged, marked⟩
        · exact .inl ⟨_, .unmarked resolved read tagged marked⟩
      · exact .inl ⟨_, .untagged resolved read tagged⟩

private theorem findRecording_of_read {path : String} {data : Bytes}
    (resolved : Recording.resolve? hub.config.recordingsDir filename = some path)
    (read : hub.recorder.folder.disk.read path = .ok data) :
    hub.findRecording filename = .ok (path, data) := by
  rw [findRecording, resolved]
  dsimp only
  rw [read]

theorem Refuses.playFound {refusal : HubError} (h : first.Refuses filename refusal)
    (hub : Hub δ ρ) (id : Nat) (number : SeatNumber) :
    hub.playFound (first.findRecording filename) id number = (.error refusal, hub) := by
  cases h with
  | name unresolved =>
    rw [findRecording, unresolved]
    rfl
  | unreadable resolved unread =>
    rw [findRecording, resolved]
    dsimp only
    rw [unread]
    rfl
  | untagged resolved read untagged =>
    rw [findRecording_of_read resolved read]
    exact hub.playFound_of_fault id number (Header.read_of_not_tagged untagged) _
  | unmarked resolved read tagged unmarked =>
    rw [findRecording_of_read resolved read]
    exact hub.playFound_of_fault id number (Header.read_of_not_marked tagged unmarked) _

/-- What can be played is played, whatever the player is doing when it is answered. -/
theorem Playable.playFound {path : String} {data : Bytes} (h : first.Playable filename path data)
    (hub : Hub δ ρ) (id : Nat) (number : SeatNumber) :
    ∃ header body, Header.read data = .ok (header, body) ∧
      hub.playFound (first.findRecording filename) id number =
        (.ok (), { hub with
          player := ((hub.player.load path data).2.start number).2
          playbackOwner := some id }) := by
  obtain ⟨resolved, read, complete⟩ := h
  obtain ⟨⟨header, body⟩, head⟩ := Header.exists_read_iff.mpr complete
  rw [findRecording_of_read resolved read]
  exact ⟨header, body, head, hub.playFound_of_head id number head path⟩

/-- The reasons of `Refuses` are all there are, and a hub that refuses stays as it is. -/
theorem refuses_of_playFound {id : Nat} {number : SeatNumber} {refusal : HubError}
    (refused : (hub.playFound (first.findRecording filename) id number).1 = .error refusal) :
    first.Refuses filename refusal ∧
      (hub.playFound (first.findRecording filename) id number).2 = hub := by
  rcases first.refuses_or_playable filename with ⟨other, refuses⟩ | ⟨path, data, playable⟩
  · rw [refuses.playFound hub id number] at refused ⊢
    cases refused
    exact ⟨refuses, rfl⟩
  · obtain ⟨header, body, -, played⟩ := playable.playFound hub id number
    rw [played] at refused
    cases refused

theorem playable_of_playFound {id : Nat} {number : SeatNumber}
    (granted : (hub.playFound (first.findRecording filename) id number).1 = .ok ()) :
    ∃ path data, first.Playable filename path data := by
  rcases first.refuses_or_playable filename with ⟨other, refuses⟩ | playable
  · rw [refuses.playFound hub id number] at granted
    cases granted
  · exact playable

/-! ## A run with requests in it -/

section

variable [CaptureDevice δ] [FrameRenderer ρ]

/-- What a command has the player deliver: when, to whom, and the text. -/
def delivered (hub : Hub δ ρ) : Command → List (Nat × (SeatNumber × String))
  | .runPlayer _ now => (hub.player.settle now).1.map (now, ·)
  | _ => []

/-- What is delivered in the course of some commands. -/
def heard (hub : Hub δ ρ) : List Command → List (Nat × (SeatNumber × String))
  | [] => []
  | command :: later => hub.delivered command ++ (hub.apply command).heard later

/-- The commands of one run are those of another, and besides them requests that are refused. -/
inductive Besides : Hub δ ρ → List Command → List Command → Prop
  | done {hub : Hub δ ρ} : Besides hub [] []
  | command {hub : Hub δ ρ} {command : Command} {asked others : List Command}
    (later : Besides (hub.apply command) asked others) :
    Besides hub (command :: asked) (command :: others)
  | request {hub : Hub δ ρ} {filename : String} {refusal : HubError} {id : Nat}
    {number : SeatNumber} {asked others : List Command}
    (refuses : hub.Refuses filename refusal) (later : Besides hub asked others) :
    Besides hub (.startPlayback filename id number :: asked) others

/-- A request that is refused is a command that does nothing. -/
theorem Refuses.apply {refusal : HubError} (h : hub.Refuses filename refusal) (id : Nat)
    (number : SeatNumber) : hub.apply (.startPlayback filename id number) = hub := by
  rw [Hub.apply, startPlayback_eq_playFound, h.playFound hub id number]

/-- A run comes to the same with refused requests in it, and the same is delivered at the same
times. -/
theorem Besides.run_eq {asked others : List Command} (h : hub.Besides asked others) :
    hub.run asked = hub.run others ∧ hub.heard asked = hub.heard others := by
  induction h with
  | done => exact ⟨rfl, rfl⟩
  | command later ih => exact ⟨ih.1, congrArg (_ ++ ·) ih.2⟩
  | request refuses later ih =>
    have still := refuses.apply
    rw [run, List.foldl_cons, still, heard, still]
    exact ih

end

/-! ## What is promised -/

/-- What is promised of a request whose file is read while the hub is `first` and which is answered
by `hub`. -/
structure Decides [CaptureDevice δ] [FrameRenderer ρ] (first hub : Hub δ ρ) (filename : String)
    (id : Nat) (number : SeatNumber) : Prop where
  /-- It is refused for one of the reasons that there are, whatever the hub is doing. -/
  refused_iff : ∀ refusal,
    (hub.playFound (first.findRecording filename) id number).1 = .error refusal ↔
      first.Refuses filename refusal
  /-- It is granted if the head of the file is complete, whatever the hub is doing. -/
  granted_iff : (hub.playFound (first.findRecording filename) id number).1 = .ok () ↔
    ∃ path data, first.Playable filename path data
  /-- A request that is refused changes nothing. -/
  unchanged : ∀ refusal,
    (hub.playFound (first.findRecording filename) id number).1 = .error refusal →
      (hub.playFound (first.findRecording filename) id number).2 = hub
  /-- One that is granted puts a new playback in place of what there was, for the one who asked. Of
  the old one nothing is left but the speed. -/
  granted : ∀ path data, first.Playable filename path data →
    ∃ header body, Header.read data = .ok (header, body) ∧
      (hub.playFound (first.findRecording filename) id number).2.player.bare =
        { tape := some ⟨path, header, body⟩, status := .playing, unread := body, delivered := 0,
          lastElapsed := none, speed := hub.player.speed, listener := some number,
          timers := [{ listener := number }] } ∧
      (hub.playFound (first.findRecording filename) id number).2.playbackOwner = some id
  /-- The hub's own command is the request that is answered at once. -/
  atOnce : hub.startPlayback filename id number =
    hub.playFound (hub.findRecording filename) id number
  /-- With requests that are refused a run comes to what it comes to without them, and the same is
  delivered at the same times. -/
  disregards : ∀ asked others, hub.Besides asked others →
    hub.run asked = hub.run others ∧ hub.heard asked = hub.heard others

/-- A playback that is asked for is refused and nothing happens, or it is played, and which of the
two it is does not depend on what is being played. -/
theorem decides_playFound [CaptureDevice δ] [FrameRenderer ρ] (first hub : Hub δ ρ)
    (filename : String) (id : Nat) (number : SeatNumber) :
    Decides first hub filename id number where
  refused_iff := by
    intro refusal
    constructor
    · exact fun refused ↦ (refuses_of_playFound refused).1
    · exact fun refuses ↦ congrArg Prod.fst (refuses.playFound hub id number)
  granted_iff := by
    constructor
    · exact playable_of_playFound
    · rintro ⟨path, data, playable⟩
      obtain ⟨header, body, -, played⟩ := playable.playFound hub id number
      rw [played]
  unchanged := fun _ refused ↦ (refuses_of_playFound refused).2
  granted := by
    intro path data playable
    obtain ⟨header, body, head, played⟩ := playable.playFound hub id number
    refine ⟨header, body, head, ?_, ?_⟩
    · rw [played]
      exact Playback.Reader.bare_start_load head path number hub.player
    · rw [played]
  atOnce := hub.startPlayback_eq_playFound id number filename
  disregards := fun _ _ besides ↦ besides.run_eq

end Hub

end Glyphcast
