import WaitingList.Proofs.Settings.File
import WaitingList.Proofs.Settings.Plain
import WaitingList.Proofs.Settings.Variable

namespace WaitingList

namespace Surroundings

open Setting (winner? winner?_cons winner?_singleton plain)
open Extraction (Reads)

variable {s other : Surroundings} {environment : Environment} {layers : List Setting}

/-- The layers that the settings of an environment are read from, the highest one first, if its
files can be read. -/
def Stacked (s : Surroundings) (environment : Environment) (layers : List Setting) : Prop :=
  ∃ base specific, s.fileLayer baseFileName = .ok base ∧
    s.fileLayer environment.fileName = .ok specific ∧ layers = [s.variableLayer, specific, base]

theorem layers_of_files {base specific : Setting} (hbase : s.fileLayer baseFileName = .ok base)
    (hspecific : s.fileLayer environment.fileName = .ok specific) :
    s.layers environment = .ok ((base.merge specific).merge s.variableLayer) := by
  rw [Surroundings.layers, hbase, hspecific]

/-- The layers amount to one tree that shows what they say, and the settings are taken from it. -/
theorem Stacked.merged (h : s.Stacked environment layers) :
    ∃ whole, s.layers environment = .ok whole ∧ whole.Proper ∧
      ∀ path, whole.shows? path = winner? layers path := by
  obtain ⟨base, specific, hbase, hspecific, rfl⟩ := h
  have hupper := proper_fileLayer hspecific
  have hfiles := (proper_fileLayer hbase).merge hupper
  refine ⟨_, layers_of_files hbase hspecific, hfiles.merge s.proper_variableLayer, fun path => ?_⟩
  rw [Setting.shows?_merge s.proper_variableLayer, winner?_cons, winner?_singleton,
    Setting.shows?_merge hupper, ← winner?_cons]

theorem load_of_layers {whole : Setting} (h : s.layers environment = .ok whole) :
    s.load environment = (Extraction.settings whole.entries).mapError .mismatch := by
  rw [load, h]
  cases hsettings : Extraction.settings whole.entries <;>
    simp [bind, Except.bind, Except.mapError, hsettings]

/-- No file is read but the base file and that of the environment. -/
theorem load_of_same_files (hprocess : other.process = s.process)
    (hfiles : ∀ name ∈ [baseFileName, environment.fileName],
      other.files.lookup name = s.files.lookup name) :
    other.load environment = s.load environment := by
  have hlayer (name : String) (hname : name ∈ [baseFileName, environment.fileName]) :
      other.fileLayer name = s.fileLayer name := by
    rw [fileLayer, hfiles name hname, fileLayer]
  rw [load, load, Surroundings.layers, Surroundings.layers, hlayer _ (by simp),
    hlayer _ (by simp), variableLayer, hprocess, variableLayer]

/-- Settings are loaded as they are read from one tree in which at every path stands what the
highest layer says that has a say about the path. Nothing else about the layers counts: any tree
with these values at the paths of the settings amounts to the same settings or the same mismatch;
to the same settings still if its values are written elsewhere, in one layer or in many; and no
file is read but the base file and that of the environment. In the layer of the variables in turn,
the last variable that has a say about a path is right. -/
theorem load_by_precedence (h : s.Stacked environment layers) :
    (∃ whole : Setting, whole.Proper ∧ ∀ path, whole.shows? path = winner? layers path) ∧
    (∀ whole : Setting, whole.Proper →
      (∀ path, Reads path → whole.shows? path = winner? layers path) →
      s.load environment = (Extraction.settings whole.entries).mapError .mismatch) ∧
    (∀ whole : Setting, whole.Proper →
      (∀ path, Reads path →
        (whole.shows? path).map plain = (winner? layers path).map plain) →
      (s.load environment).toOption = (Extraction.settings whole.entries).toOption) ∧
    (∀ (other : Surroundings) (place : Environment) (further : List Setting),
      other.Stacked place further →
      (∀ path, Reads path →
        (winner? further path).map plain = (winner? layers path).map plain) →
      (other.load place).toOption = (s.load environment).toOption) ∧
    (∀ other : Surroundings, other.process = s.process →
      (∀ name ∈ [baseFileName, environment.fileName],
        other.files.lookup name = s.files.lookup name) →
      other.load environment = s.load environment) ∧
    ∀ path, s.variableLayer.shows? path =
      winner? (((Variable.assign s.process).filterMap Variable.layer?).reverse ++
        [.table .process []]) path := by
  obtain ⟨merged, hlayers, hmerged, hshows⟩ := h.merged
  have hload := load_of_layers hlayers
  refine ⟨⟨merged, hmerged, hshows⟩, fun whole hwhole hsame => ?_, fun whole hwhole hsame => ?_,
    fun other place further hother hsame => ?_,
    fun other hprocess hfiles => load_of_same_files hprocess hfiles, Setting.shows?_ofVariables _⟩
  · have hsettings : Extraction.settings merged.entries = Extraction.settings whole.entries :=
      Extraction.settings_congr hmerged hwhole fun path hpath => by
        rw [hshows, hsame path hpath]
    rw [hload, hsettings]
  · have hsettings := Extraction.settings_congr_plain hmerged hwhole fun path hpath => by
      rw [hshows, hsame path hpath]
    rw [hload, toOption_mapError, hsettings]
  · obtain ⟨otherMerged, hotherLayers, hotherMerged, hotherShows⟩ := hother.merged
    have hsettings := Extraction.settings_congr_plain hotherMerged hmerged fun path hpath => by
      rw [hshows, hotherShows, hsame path hpath]
    rw [hload, load_of_layers hotherLayers, toOption_mapError, toOption_mapError, hsettings]

/-- Surroundings in which each layer has a say about where the store is. -/
def threeLayers : Surroundings where
  files :=
    [(baseFileName, Utf8.encode "[db_config]\nusername=\"u\"\nport=5432\nhost=\"a\"\n".toList),
      (Environment.development.fileName, Utf8.encode "[db_config]\nport=1\n".toList)]
  process := [⟨"APP_DB_CONFIG__HOST", Utf8.encode "b".toList⟩]

/-- A key of each layer wins, and a broken file of another environment is not looked at. -/
theorem load_by_precedence_threeLayers : ∃ layers, threeLayers.Stacked .development layers ∧
    (∃ whole : Setting, whole.Proper ∧ ∀ path, whole.shows? path = winner? layers path) ∧
    winner? layers ["db_config", "username"] = some (.scalar (.file "base.toml") (.text "u")) ∧
    winner? layers ["db_config", "port"] = some (.scalar (.file "local.toml") (.signed 1)) ∧
    winner? layers ["db_config", "host"] = some (.scalar .process (.text "b")) ∧
    { threeLayers with files := ("production.toml", [0xFF]) :: threeLayers.files }.load
      .development = threeLayers.load .development := by
  have hbase : Toml.parse? "[db_config]\nusername=\"u\"\nport=5432\nhost=\"a\"\n" =
      some [("db_config", .table .headed
        [("username", .text "u"), ("port", .integer 5432), ("host", .text "a")])] := by rfl
  have hspecific : Toml.parse? "[db_config]\nport=1\n" =
      some [("db_config", .table .headed [("port", .integer 1)])] := by rfl
  have hstacked : threeLayers.Stacked .development _ :=
    ⟨_, _, fileLayer_of_parse? rfl hbase, fileLayer_of_parse? rfl hspecific, rfl⟩
  obtain ⟨hwhole, _, _, _, hfiles, _⟩ := load_by_precedence hstacked
  exact ⟨_, hstacked, hwhole, rfl, rfl, rfl, hfiles _ rfl (by decide)⟩

end Surroundings

end WaitingList
