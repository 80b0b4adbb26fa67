import Glyphcast.Device.Scripted
import Glyphcast.Proofs.Hub.Request
import Glyphcast.Proofs.Hub.Shutdown
import Glyphcast.Proofs.Recording.Listing

/-!
# Playing what is listed

A client is shown a list of the recordings and asks for one of them by its name. The list is made
from the names that the folder holds, the request is checked by `isSafeName`, and the two do not
agree on what a name may be: a file can be called `take..2.asr`. It leads nowhere but to the file,
and it is listed, but a name with two dots in a row is refused whatever it stands for, and so is one
with a backslash.

This is the only thing that can go wrong. `Promises` says so of each summary in a list: under an
askable name it stands for the file that it was made from, and that file is played, by the same hub
or any other that reads the same, whatever it is doing then.
-/

namespace Glyphcast

namespace Recording

/-! ## Names that can be asked for -/

/-- A name without a backslash and without two dots in a row. -/
structure Askable (name : String) : Prop where
  /-- There is no backslash in it. -/
  backslash_notMem : '\\' ∉ name.toList
  /-- No two dots stand in a row. -/
  not_infix : ¬['.', '.'] <:+: name.toList

variable {folder : Folder} {trail : Trail} {name : EntryName} {info : Info} {infos : List Info}

private theorem EntryName.isSafeName_text_iff (name : EntryName) :
    isSafeName name.text = true ↔ Askable name.text := by
  rw [isSafeName_iff]
  constructor
  · rintro ⟨-, -, noBackslash, dots⟩
    exact ⟨noBackslash, dots⟩
  · rintro ⟨noBackslash, dots⟩
    exact ⟨name.text_ne_empty, name.slash_notMem, noBackslash, dots⟩

/-! ## Files that are listed -/

namespace Folder

private theorem exists_offers (listed : folder.recordings = .ok infos) (mem : info ∈ infos) :
    ∃ trail name, folder.LiesAt trail ∧ folder.Offers trail name info := by
  obtain ⟨trail, lies⟩ := exists_liesAt listed
  obtain ⟨all, whole, -, mem_iff⟩ := exists_recordings lies
  cases listed.symm.trans whole
  obtain ⟨name, offers⟩ := (mem_iff info).mp mem
  exact ⟨trail, name, lies, offers⟩

theorem Offers.resolve?_eq_some_iff (h : folder.Offers trail name info) {directory path : String} :
    resolve? directory info.filename = some path ↔
      Askable info.filename ∧ path = join directory info.filename := by
  rw [h.filename_eq, Recording.resolve?_eq_some_iff, name.isSafeName_text_iff]

private theorem Offers.exists_read (h : folder.Offers trail name info)
    (lies : folder.LiesAt trail) :
    ∃ data, folder.read name.text = .ok data ∧ Info.ofBytes name.text data = .ok info ∧
      Tagged data ∧ Marked data := by
  obtain ⟨data, file, summed⟩ := h.summed
  exact ⟨data, (read_text_eq_ok_iff lies).mpr ⟨h.taken, file⟩, summed,
    Header.exists_read_iff.mp (exists_read_of_ofBytes summed).2⟩

end Folder

end Recording

namespace Hub

open Recording (Askable EntryName Info resolve?)

variable {δ ρ : Type}

/-! ## Requests for what is listed -/

/-- The files of the folder read the same for one hub as for another. -/
structure SameFiles (hub later : Hub δ ρ) : Prop where
  /-- Both look for recordings at the same place. -/
  directory_eq : later.config.recordingsDir = hub.config.recordingsDir
  /-- Whatever entry is looked for there, the same is read. -/
  read_eq : ∀ name : EntryName,
    later.recorder.folder.disk.read (Recording.join hub.config.recordingsDir name.text) =
      hub.recorder.folder.disk.read (Recording.join hub.config.recordingsDir name.text)

theorem SameFiles.refl (hub : Hub δ ρ) : hub.SameFiles hub := ⟨rfl, fun _ ↦ rfl⟩

/-- What a list promises by one of its summaries. -/
structure Promises (hub : Hub δ ρ) (info : Info) : Prop where
  /-- The name stands for a file if it is askable, and then for the file of that name. -/
  resolves_iff : ∀ path, resolve? hub.config.recordingsDir info.filename = some path ↔
    Askable info.filename ∧ path = Recording.join hub.config.recordingsDir info.filename
  /-- That file is the one that is summed up. -/
  summed : ∃ data,
    hub.recorder.folder.disk.read (Recording.join hub.config.recordingsDir info.filename) =
      .ok data ∧ Info.ofBytes info.filename data = .ok info
  /-- While the files stay as they are, it is played to whoever asks for it by an askable name. -/
  played : Askable info.filename → ∀ later, hub.SameFiles later → ∀ id number,
    (later.startPlayback info.filename id number).1 = .ok ()
  /-- If its name is not askable it is refused, and nothing happens. -/
  refused : ¬Askable info.filename → ∀ later : Hub δ ρ,
    later.config.recordingsDir = hub.config.recordingsDir → ∀ id number,
      later.startPlayback info.filename id number =
        (.error (.playback ("invalid recording name " ++ Text.quote info.filename)), later)

variable {hub : Hub δ ρ} {info : Info} {infos : List Info}

private theorem recordings_eq_ok_iff :
    hub.recordings = .ok infos ↔ hub.recorder.folder.recordings = .ok infos := by
  rw [recordings]
  rcases hub.recorder.folder.recordings with cause | found
  · constructor <;> intro h <;> cases h
  · rw [Except.mapError, Except.ok.injEq, Except.ok.injEq]

/-- A hub whose recorder records where recordings are looked for promises what it lists. -/
theorem promises_of_listed (same : hub.recorder.folder.path = hub.config.recordingsDir)
    (listed : hub.recordings = .ok infos) (mem : info ∈ infos) : hub.Promises info := by
  obtain ⟨trail, name, lies, offers⟩ :=
    Recording.Folder.exists_offers (recordings_eq_ok_iff.mp listed) mem
  obtain ⟨data, read, summed, complete⟩ := offers.exists_read lies
  have found : hub.recorder.folder.disk.read
      (Recording.join hub.config.recordingsDir name.text) = .ok data := by
    rw [← same]
    exact read
  refine ⟨fun _ ↦ offers.resolve?_eq_some_iff, ⟨data, ?_, ?_⟩, ?_, ?_⟩
  · rw [offers.filename_eq]
    exact found
  · rw [offers.filename_eq]
    exact summed
  · intro askable later files id number
    have playable : later.Playable info.filename
        (Recording.join hub.config.recordingsDir info.filename) data := by
      refine ⟨?_, ?_, complete⟩
      · rw [files.directory_eq]
        exact offers.resolve?_eq_some_iff.mpr ⟨askable, rfl⟩
      · rw [offers.filename_eq]
        exact (files.read_eq name).trans found
    obtain ⟨header, body, -, played⟩ := playable.playFound later id number
    rw [startPlayback_eq_playFound, played]
  · intro notAskable later directory_eq id number
    have unresolved : resolve? later.config.recordingsDir info.filename = none := by
      rw [directory_eq, Option.eq_none_iff_forall_ne_some]
      intro path resolved
      exact notAskable (offers.resolve?_eq_some_iff.mp resolved).1
    rw [startPlayback_eq_playFound, (Refuses.name unresolved).playFound]

variable [CaptureDevice δ] [FrameRenderer ρ]

theorem path_run (device : δ) (renderer : ρ) (config : HubConfig) (disk : Recording.Disk)
    (commands : List Command) :
    ((new device renderer config disk).run commands).recorder.folder.path =
      ((new device renderer config disk).run commands).config.recordingsDir := by
  obtain ⟨deeds, performed⟩ := (new device renderer config disk).recorder_run commands
  rw [performed, Recording.Recorder.path_performAll, config_run]
  rfl

/-- Whatever a hub has been through, it promises what it lists. -/
theorem promises_run (device : δ) (renderer : ρ) (config : HubConfig) (disk : Recording.Disk)
    (commands : List Command)
    (listed : ((new device renderer config disk).run commands).recordings = .ok infos)
    (mem : info ∈ infos) : ((new device renderer config disk).run commands).Promises info :=
  promises_of_listed (path_run device renderer config disk commands) listed mem

/-! ## A name that is listed and refused -/

/-- A folder with two recordings, both of them without frames. -/
def twoTakes : Recording.Disk :=
  let folder : EntryName := ⟨"recordings", by decide⟩
  let take : Recording.Entry := .ofBytes (Text.encode "ASCII_STREAM_RECORD\nframes:\n")
  ((Recording.Disk.empty.put [folder] .directory).put [⟨"take..2.asr", by decide⟩, folder] take).put
    [⟨"take.asr", by decide⟩, folder] take

private theorem recordings_twoTakes :
    (new ({} : ScriptedDevice) ({} : LabelRenderer) {} twoTakes).recordings =
      .ok [⟨"take..2.asr", none, 0, 0, 28⟩, ⟨"take.asr", none, 0, 0, 28⟩] := by
  let folder : Recording.Folder := { path := "recordings", disk := twoTakes }
  let trail : Recording.Trail := [⟨"recordings", by decide⟩]
  have lies : folder.LiesAt trail := ⟨by decide +kernel, by decide +kernel⟩
  have summed : folder.summaries (folder.disk.names trail) =
      [⟨"take..2.asr", none, 0, 0, 28⟩, ⟨"take.asr", none, 0, 0, 28⟩] := by
    decide +kernel
  rw [recordings_eq_ok_iff]
  refine (Recording.Folder.recordings_of_liesAt lies).trans ?_
  rw [summed, List.mergeSort_of_pairwise (by decide)]

/-- One of them can be played. -/
theorem promises_take :
    let hub := new ({} : ScriptedDevice) ({} : LabelRenderer) {} twoTakes
    hub.recordings = .ok [⟨"take..2.asr", none, 0, 0, 28⟩, ⟨"take.asr", none, 0, 0, 28⟩] ∧
      hub.Promises ⟨"take.asr", none, 0, 0, 28⟩ ∧
      (hub.startPlayback "take.asr" 1 0).1 = .ok () := by
  intro hub
  have promises : hub.Promises ⟨"take.asr", none, 0, 0, 28⟩ :=
    promises_run _ _ _ twoTakes [] recordings_twoTakes (List.mem_cons_of_mem _ List.mem_cons_self)
  have askable : Askable "take.asr" := ⟨by decide, by decide +kernel⟩
  have played := promises.played askable hub (.refl hub) 1 0
  exact ⟨recordings_twoTakes, promises, played⟩

/-- The other one cannot be played, since there are two dots in a row in its name. -/
theorem refused_second_take :
    let hub := new ({} : ScriptedDevice) ({} : LabelRenderer) {} twoTakes
    hub.recordings = .ok [⟨"take..2.asr", none, 0, 0, 28⟩, ⟨"take.asr", none, 0, 0, 28⟩] ∧
      resolve? hub.config.recordingsDir "take..2.asr" = none ∧
      (hub.startPlayback "take..2.asr" 1 0).1 =
        .error (.playback "invalid recording name \"take..2.asr\"") :=
  ⟨recordings_twoTakes, by decide, by decide +kernel⟩

end Hub

end Glyphcast
