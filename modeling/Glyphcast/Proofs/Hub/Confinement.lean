import Glyphcast.Proofs.Hub.Request
import Glyphcast.Proofs.Recording.Place

/-!
# Names cannot lead out of the folder

What a client may ask for is a name, and what is read for it is a path. `Confines` is about names
and paths alone, for every directory there can be: a name that is not refused stands for a path that
leads to the directory or directly into it, by its text and on every disk.

That nothing else is read is a statement about two disks. A hub that is put on another disk, where
everything in the directory reads the same, answers a request in the same way and comes to the same
state, whatever lies elsewhere on the two: `Confined.blind`.
-/

namespace Glyphcast

namespace Recording

/-- What is promised of a name from outside, in any directory and on any disk. -/
structure Confines (directory name : String) : Prop where
  /-- Which names are refused. -/
  refused_iff : resolve? directory name = none ↔
    name = "" ∨ '/' ∈ name.toList ∨ '\\' ∈ name.toList ∨ ['.', '.'] <:+: name.toList
  /-- Any other stands for itself in the directory. -/
  joined : ∀ path, resolve? directory name = some path → path = join directory name
  /-- That path does not lead out of the directory, and at most one step into it. -/
  within : ∀ path, resolve? directory name = some path → Within directory path
  /-- What is read there is the file of that name in the directory. -/
  entry : ∀ path, resolve? directory name = some path → ∀ (disk : Disk) data,
    disk.read path = .ok data → ∃ trail entry, disk.walk (steps directory) [] = .ok trail ∧
      entry.text = name ∧ disk.entryAt (entry :: trail) = some (.ofBytes data)

private theorem confines (directory name : String) : Confines directory name where
  refused_iff := resolve?_eq_none_iff
  joined _ resolved := (resolve?_eq_some_iff.mp resolved).2
  within path resolved := by
    obtain ⟨safe, rfl⟩ := resolve?_eq_some_iff.mp resolved
    exact within_join safe directory
  entry path resolved disk data read := by
    obtain ⟨safe, rfl⟩ := resolve?_eq_some_iff.mp resolved
    exact Disk.exists_entry_of_read safe read

end Recording

namespace Hub

open Recording (Confines Disk Header Within resolve?)

variable {δ ρ : Type}

/-- A hub that is put on another disk. -/
def onDisk (hub : Hub δ ρ) (disk : Disk) : Hub δ ρ :=
  { hub with
    recorder := { hub.recorder with folder := { hub.recorder.folder with disk } } }

section

variable (hub : Hub δ ρ) (disk : Disk) (filename : String) (id : Nat) (number : SeatNumber)

/-- Only what is in the directory is looked at. -/
theorem findRecording_onDisk (same : ∀ path, Within hub.config.recordingsDir path →
    disk.read path = hub.recorder.folder.disk.read path) :
    (hub.onDisk disk).findRecording filename = hub.findRecording filename := by
  have config : (hub.onDisk disk).config = hub.config := rfl
  rw [findRecording, findRecording, config]
  rcases resolved : resolve? hub.config.recordingsDir filename with _ | path
  · rfl
  · have read : (hub.onDisk disk).recorder.folder.disk.read path =
        hub.recorder.folder.disk.read path :=
      same path ((Recording.confines _ filename).within path resolved)
    dsimp only
    rw [read]

private theorem playFound_onDisk (found : Except HubError (String × Bytes)) :
    (hub.onDisk disk).playFound found id number =
      ((hub.playFound found id number).1, (hub.playFound found id number).2.onDisk disk) := by
  rcases found with refusal | ⟨path, data⟩
  · rfl
  · rcases head : Header.read data with fault | ⟨header, body⟩
    · rw [playFound_of_fault _ id number head, playFound_of_fault _ id number head]
    · rw [playFound_of_head _ id number head, playFound_of_head _ id number head]
      rfl

/-- What is promised of a request: it cannot reach anything outside of the directory. -/
structure Confined : Prop where
  /-- Whatever the directory, the name does not lead out of it. -/
  confines : ∀ directory, Confines directory filename
  /-- What is played was read in the directory, from the file of that name. -/
  played : (hub.startPlayback filename id number).1 = .ok () →
    ∃ path data header body, resolve? hub.config.recordingsDir filename = some path ∧
      Within hub.config.recordingsDir path ∧
      hub.recorder.folder.disk.read path = .ok data ∧ Header.read data = .ok (header, body) ∧
      (hub.startPlayback filename id number).2.player.tape = some ⟨path, header, body⟩
  /-- On a disk that reads the same in the directory, the answer is the same, and so is the hub
  afterwards. -/
  blind : ∀ disk : Disk, (∀ path, Within hub.config.recordingsDir path →
      disk.read path = hub.recorder.folder.disk.read path) →
    (hub.onDisk disk).startPlayback filename id number =
      ((hub.startPlayback filename id number).1,
        (hub.startPlayback filename id number).2.onDisk disk)

theorem confined_startPlayback : hub.Confined filename id number where
  confines directory := Recording.confines directory filename
  played granted := by
    rw [startPlayback_eq_playFound] at granted ⊢
    obtain ⟨path, data, playable⟩ := playable_of_playFound granted
    obtain ⟨header, body, head, played⟩ := playable.playFound hub id number
    refine ⟨path, data, header, body, playable.1,
      (Recording.confines _ filename).within path playable.1, playable.2.1, head, ?_⟩
    rw [played]
    exact congrArg (·.tape) (Playback.Reader.bare_start_load head path number hub.player)
  blind disk same := by
    rw [startPlayback_eq_playFound, startPlayback_eq_playFound,
      findRecording_onDisk hub disk filename same, playFound_onDisk]

end

end Hub

end Glyphcast
