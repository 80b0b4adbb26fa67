import Glyphcast.Device.Pattern
import Glyphcast.Device.Scripted
import Glyphcast.Proofs.Hub.Request
import Glyphcast.Proofs.Hub.Start
import Glyphcast.Proofs.Recording.Written
import Glyphcast.Proofs.Text.OneLine

/-!
# The words of a refusal

Whatever a command of the hub is refused for is told in one line. The words come from four places.
The hub's own are known. What a client wrote, or what a file begins with, is quoted. A disk reports
the failures of its host, and those of the search for a name, whose words are known, too. What
remains is what a device says of itself: about that nothing can be known here, and so it is assumed
that a device does not break its lines, of the one device and of the calls that a start makes. The
test pattern satisfies this.
-/

namespace Glyphcast

open Text (IsOneLine IsPlain isOneLine_quote isOneLine_toString)

/-! ## Steps that fail -/

section

variable {ε ζ α β : Type} {fault : ε}

private theorem error_of_bind {first : Except ε α} {second : α → Except ε β}
    (failed : first >>= second = .error fault) :
    first = .error fault ∨ ∃ value, first = .ok value ∧ second value = .error fault := by
  cases first with
  | error cause => exact .inl (congrArg Except.error (Except.error.inj failed))
  | ok value => exact .inr ⟨value, rfl, failed⟩

private theorem error_of_map {answer : Except ε α} {change : α → β}
    (failed : answer.map change = .error fault) : answer = .error fault := by
  cases answer with
  | error cause => cases failed; rfl
  | ok value => cases failed

private theorem exists_error_of_mapError {answer : Except ζ α} {reword : ζ → ε}
    (failed : answer.mapError reword = .error fault) :
    ∃ cause, answer = .error cause ∧ reword cause = fault := by
  cases answer with
  | error cause => exact ⟨cause, rfl, Except.error.inj failed⟩
  | ok value => cases failed

end

/-! ## Devices -/

/-- What is said of a call that gives no answer is of one line. -/
def Outcome.IsTerse {α : Type} : Outcome α → Prop
  | .done _ => True
  | .failed error => IsOneLine error.message
  | .crashed crash => IsOneLine crash.reason

/-- Whatever a device says when it is opened and sized is of one line. -/
structure Terse {δ : Type} [CaptureDevice δ] (device : δ) : Prop where
  opening : ∀ index, (openAt device index).1.IsTerse
  sizing : ∀ index width height, (resize (openAt device index).2 width height).1.IsTerse

theorem PatternDevice.terse (device : PatternDevice) : Terse device where
  opening index := by
    dsimp only [openAt]
    split
    · trivial
    · exact ((by decide : IsOneLine "Capture device ").append (isOneLine_toString _)).append
        (by decide)
  sizing index width height := by
    dsimp only [resize]
    split
    · exact (by decide : IsOneLine "Capture device is not open")
    · split
      · exact (((by decide : IsOneLine "Unsupported capture resolution ").append
          (isOneLine_toString _)).append (by decide)).append (isOneLine_toString _)
      · trivial

/-- A scripted device says what it was told to say, and little else. -/
theorem ScriptedDevice.terse {device : ScriptedDevice}
    (h : ∀ error, device.openError = some error → IsOneLine error.message) : Terse device where
  opening index := by
    dsimp only [openAt]
    cases set : device.openError with
    | some error => exact h error set
    | none =>
      dsimp only
      split_ifs
      · exact ((by decide : IsOneLine "Capture device ").append (isOneLine_toString _)).append
          (by decide)
      · exact (by decide : IsOneLine (DeviceError.openFailed "already open").message)
      · trivial
  sizing index width height := by
    dsimp only [resize]
    split
    · trivial
    · exact (by decide : IsOneLine "Capture device is not open")

namespace Pipeline

variable {δ ρ : Type} [CaptureDevice δ] [FrameRenderer ρ]

/-- A crash is told behind words of one line. -/
theorem isOneLine_openCrash {crash : Crash} (h : IsOneLine crash.reason) :
    IsOneLine (openCrash crash).message :=
  (by decide : IsOneLine "Failed to open capture device: ").append
    ((by decide : IsOneLine "device panicked: ").append h)

private theorem isOneLine_of_start {pipeline : Pipeline δ ρ} (terse : Terse pipeline.device)
    {settings : StreamSettings} {oversample : UInt32} {ramp : String} {cause : DeviceError}
    (failed : (pipeline.start settings oversample ramp).1 = .error cause) :
    IsOneLine cause.message := by
  have opening := terse.opening settings.cameraIndex
  have sizing := terse.sizing settings.cameraIndex (settings.resolution.scaled oversample).width
    (settings.resolution.scaled oversample).height
  revert failed
  simp only [start]
  generalize openAt pipeline.device settings.cameraIndex = opened at opening sizing ⊢
  obtain ⟨opened, device⟩ := opened
  cases opened with
  | failed error =>
    rintro ⟨⟩
    exact opening
  | crashed crash =>
    rintro ⟨⟩
    exact isOneLine_openCrash opening
  | done answer =>
    dsimp only at sizing ⊢
    generalize resize device _ _ = sized at sizing ⊢
    obtain ⟨sized, device⟩ := sized
    cases sized with
    | failed error =>
      rintro ⟨⟩
      exact sizing
    | crashed crash =>
      rintro ⟨⟩
      exact isOneLine_openCrash sizing
    | done answer => rintro ⟨⟩

end Pipeline

/-! ## The disk -/

/-- What a disk says of itself: the host refused, or the name is none. -/
def IoError.IsHosts : IoError → Prop
  | .os _ | .nulInName => True
  | .noFreeName _ | .other _ => False

private theorem OsError.isOneLine_text (cause : OsError) : IsOneLine cause.text := by
  cases cause <;> decide

theorem IoError.IsHosts.isOneLine {cause : IoError} (h : cause.IsHosts) :
    IsOneLine cause.message := by
  cases cause with
  | os cause =>
    exact ((cause.isOneLine_text.append (by decide)).append (isOneLine_toString _)).append
      (by decide)
  | nulInName => decide
  | noFreeName stem => cases h
  | other text => cases h

theorem Error.isOneLine_io {cause : IoError} (h : IsOneLine cause.message) :
    IsOneLine (io cause).message :=
  (by decide : IsOneLine "I/O error: ").append h

namespace Recording

namespace Disk

variable {disk : Disk} {path : String} {cause : IoError}

private theorem isHosts_of_admits (failed : admits path = .error cause) : cause.IsHosts := by
  unfold admits at failed
  split_ifs at failed
  · cases failed
    trivial
  · cases failed
    trivial

private theorem isHosts_of_mapError {α : Type} {answer : Except OsError α}
    (failed : answer.mapError .os = .error cause) : cause.IsHosts := by
  obtain ⟨reason, -, rfl⟩ := exists_error_of_mapError failed
  trivial

private theorem isHosts_of_locate (failed : disk.locate path = .error cause) : cause.IsHosts := by
  unfold locate at failed
  rcases error_of_bind failed with unfit | ⟨_, -, failed⟩
  · exact isHosts_of_admits unfit
  · split_ifs at failed
    · cases failed
      trivial
    · exact isHosts_of_mapError failed

private theorem isHosts_of_read (failed : disk.read path = .error cause) : cause.IsHosts := by
  rcases error_of_bind failed with unlocated | ⟨trail, -, failed⟩
  · exact isHosts_of_locate unlocated
  · split at failed
    · cases failed
      trivial
    · cases failed
      trivial
    · cases failed

private theorem isHosts_of_createNew (failed : disk.createNew path = .error cause) :
    cause.IsHosts := by
  rcases error_of_bind failed with unlocated | ⟨trail, -, failed⟩
  · exact isHosts_of_locate unlocated
  · split at failed
    · cases failed
    · cases failed
      trivial

private theorem isHosts_of_createDirectory (failed : disk.createDirectory path = .error cause) :
    cause.IsHosts := by
  unfold createDirectory at failed
  rcases error_of_bind failed with unfit | ⟨_, -, failed⟩
  · exact isHosts_of_admits unfit
  · split_ifs at failed
    · cases failed
    · exact isHosts_of_mapError failed

end Disk

/-! ## Recording -/

private theorem Stamp.isPlain_stem (stamp : Stamp) : IsPlain stamp.stem := by
  have front : IsPlain "ascii_stream_" := by decide
  have underscore : IsPlain "_" := by decide
  have part (width n : Nat) : IsPlain (Decimal.padded width n) := Text.isPlain_padded width n
  exact ((((((front.append (part _ _)).append (part _ _)).append (part _ _)).append
    underscore).append (part _ _)).append (part _ _)).append (part _ _)

namespace Recorder

variable {recorder : Recorder} {folder : Folder} {stem : String} {names : List String}
  {cause : IoError}

/-- The search for a name fails because of the host, or because it has come to its end. -/
theorem isHosts_of_createFirst (failed : createFirst folder stem names = .error cause) :
    cause.IsHosts ∨ cause = .noFreeName stem := by
  induction names with
  | nil =>
    cases failed
    exact .inr rfl
  | cons name names ih =>
    unfold createFirst at failed
    split at failed
    · cases failed
    · exact ih failed
    · next other _ refused =>
      cases failed
      exact .inl (Disk.isHosts_of_createNew (error_of_map refused))

private theorem isOneLine_of_start {now : Nat} {stamp : Stamp} {error : Error}
    (failed : (recorder.start now stamp).1 = .error error) : IsOneLine error.message := by
  unfold start at failed
  split at failed
  · cases failed
    decide
  cases ensured : recorder.folder.ensure with
  | error cause =>
    rw [ensured] at failed
    cases failed
    exact Error.isOneLine_io (Disk.isHosts_of_createDirectory (error_of_map ensured)).isOneLine
  | ok folder =>
    simp only [ensured] at failed
    cases created : createFirst folder stamp.stem (candidates stamp.stem) with
    | error cause =>
      rw [created] at failed
      cases failed
      refine Error.isOneLine_io ?_
      rcases isHosts_of_createFirst created with hosts | rfl
      · exact hosts.isOneLine
      · exact (by decide : IsOneLine "no free recording name for ").append
          stamp.isPlain_stem.isOneLine
    | ok made =>
      rw [created] at failed
      cases failed

end Recorder

end Recording

/-! ## The hub -/

namespace Hub

variable {δ ρ : Type} {hub : Hub δ ρ} {now : Nat} {refusal : HubError}

private theorem isOneLine_of_accept {config : HubConfig} {cameraIndex fps : UInt32}
    {resolution : String} (refused : accept config cameraIndex resolution fps = .error refusal) :
    IsOneLine refusal.message := by
  have quoted : IsOneLine (HubError.invalidResolution resolution).message :=
    (by decide : IsOneLine "invalid resolution ").append (isOneLine_quote resolution)
  rw [accept_eq] at refused
  cases read : Resolution.ofText? resolution with
  | none =>
    rw [read] at refused
    cases refused
    exact quoted
  | some grid =>
    simp only [read] at refused
    split_ifs at refused
    · cases refused
      exact quoted
    · cases refused
      decide

theorem Refuses.isOneLine {filename : String} (refuses : hub.Refuses filename refusal) :
    IsOneLine refusal.message := by
  have failed {reason : String} (h : IsOneLine reason) :
      IsOneLine (HubError.playback reason).message :=
    (by decide : IsOneLine "playback failed: ").append h
  have format {fault : FormatError} (h : IsOneLine fault.message) :
      IsOneLine (Error.format fault).message :=
    (by decide : IsOneLine "Format error: ").append h
  cases refuses with
  | name unresolved =>
    exact failed ((by decide : IsOneLine "invalid recording name ").append
      (isOneLine_quote filename))
  | unreadable resolved unread =>
    exact failed ((by decide : IsOneLine "I/O error: ").append
      (Recording.Disk.isHosts_of_read unread).isOneLine)
  | untagged resolved read untagged =>
    exact failed (format ((by decide : IsOneLine "Invalid recording tag: ").append
      (isOneLine_quote _)))
  | unmarked resolved read tagged unmarked => exact failed (format (by decide))

theorem isOneLine_of_startPlayback {filename : String} {id : Nat} {number : SeatNumber}
    (refused : (hub.startPlayback filename id number).1 = .error refusal) :
    IsOneLine refusal.message := by
  rw [startPlayback_eq_playFound] at refused
  exact (refuses_of_playFound refused).1.isOneLine

theorem isOneLine_of_startRecording {stamp : Recording.Stamp}
    (refused : (hub.startRecording now stamp).1 = .error refusal) :
    IsOneLine refusal.message := by
  unfold startRecording at refused
  split at refused
  · cases refused
  obtain ⟨cause, failed, rfl⟩ := exists_error_of_mapError refused
  exact (by decide : IsOneLine "recording failed: ").append
    (Recording.Recorder.isOneLine_of_start failed)

theorem stopRecording_of_idle (now : Nat) (idle : hub.recorder.isRecording = false)
    (refused : Option OsError) : hub.stopRecording now refused = hub.stopRecording now := by
  have closed : hub.recorder.active = none :=
    Option.isNone_iff_eq_none.mp (Option.isSome_eq_false_iff.mp idle)
  cases refused with
  | none => rfl
  | some cause =>
    rw [stopRecording_eq, stopRecording, Recording.Recorder.finish, idle, Recording.Recorder.stop,
      closed]
    rfl

/-- A recording whose foot is refused is given up, and nothing else changes. -/
theorem stopRecording_refused (now : Nat) (recording : hub.recorder.isRecording = true)
    (cause : OsError) :
    hub.stopRecording now (some cause) = (.error (.recording (Error.io (.os cause)).message),
      { hub with recorder := { hub.recorder with active := none } }) := by
  rw [stopRecording, Recording.Recorder.finish, if_pos recording]
  rfl

theorem isOneLine_of_startStreaming [CaptureDevice δ] [FrameRenderer ρ] {cameraIndex fps : UInt32}
    {resolution : String} (terse : Terse (hub.join now).capture.pipeline.device)
    (refused : (hub.startStreaming now cameraIndex resolution fps).1 = .error refusal) :
    IsOneLine refusal.message := by
  cases lowered : hub.isStreaming with
  | true =>
    rw [startStreaming, if_pos lowered] at refused
    cases refused
  | false =>
    cases accepted : accept hub.config cameraIndex resolution fps with
    | error other =>
      rw [startStreaming_of_refusal now lowered accepted] at refused
      cases refused
      exact isOneLine_of_accept accepted
    | ok settings =>
      obtain ⟨answer, -, -, -⟩ := startStreaming_of_accepted now lowered accepted
      rw [answer] at refused
      obtain ⟨cause, failed, rfl⟩ := exists_error_of_mapError refused
      exact Pipeline.isOneLine_of_start terse failed

theorem isOneLine_of_claim {roster : Roster} {floor : Floor} {id : Nat} {number : SeatNumber}
    (refused : roster.claim floor id number = .error refusal) : IsOneLine refusal.message := by
  simp only [Roster.claim] at refused
  split_ifs at refused
  cases refused
  decide

end Hub

end Glyphcast
