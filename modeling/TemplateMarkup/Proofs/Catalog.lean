import Mathlib.Data.Finset.Card
import Mathlib.Data.Finset.Dedup
import TemplateMarkup.Settings

namespace TemplateMarkup

namespace Catalog

variable {catalog : Catalog} {publicId : String}

theorem source?_empty (publicId : String) : empty.source? publicId = none := by
  simp [source?, empty]

theorem source?_insert (catalog : Catalog) (publicId other : String) (source : DtdSource) :
    (catalog.insert publicId source).source? other =
      if publicId = other then some source else catalog.source? other := by
  simp [source?, insert, Std.ExtTreeMap.getElem?_insert]

section Registered

variable {α : Type} (id : α → String) (source : α → DtdSource)

-- Registers sources one after the other.
def insertAll (entries : List α) (catalog : Catalog) : Catalog :=
  entries.foldl (fun catalog entry => catalog.insert (id entry) (source entry)) catalog

theorem source?_insertAll_of_notMem {entries : List α} (h : publicId ∉ entries.map id) :
    (insertAll id source entries catalog).source? publicId = catalog.source? publicId := by
  induction entries generalizing catalog with
  | nil => rfl
  | cons entry entries ih =>
      rw [List.map_cons, List.mem_cons, not_or] at h
      calc (insertAll id source (entry :: entries) catalog).source? publicId
          = (catalog.insert (id entry) (source entry)).source? publicId := ih h.2
        _ = catalog.source? publicId := by rw [source?_insert, if_neg (Ne.symm h.1)]

-- Nothing that comes later takes the place of an entry when no id is there twice.
theorem source?_insertAll_of_mem {entries : List α} {entry : α} (hmem : entry ∈ entries)
    (hnodup : (entries.map id).Nodup) :
    (insertAll id source entries catalog).source? (id entry) = some (source entry) := by
  induction entries generalizing catalog with
  | nil => cases hmem
  | cons first entries ih =>
      rw [List.map_cons, List.nodup_cons] at hnodup
      rcases List.mem_cons.mp hmem with rfl | hlater
      · calc (insertAll id source (entry :: entries) catalog).source? (id entry)
            = (catalog.insert (id entry) (source entry)).source? (id entry) :=
              source?_insertAll_of_notMem id source hnodup.1
          _ = some (source entry) := by rw [source?_insert, if_pos rfl]
      · exact ih hlater hnodup.2

end Registered

-- The size counts the known identifiers, each of them once.
theorem size_eq_card {ids : Finset String}
    (h : ∀ publicId, (catalog.source? publicId).isSome ↔ publicId ∈ ids) :
    catalog.size = ids.card := by
  have hkeys : catalog.sources.keys.toFinset = ids := by
    ext publicId
    rw [List.mem_toFinset, Std.ExtTreeMap.mem_keys, ← h, source?,
      Std.ExtTreeMap.isSome_getElem?_iff_mem]
  rw [← hkeys, List.toFinset_card_of_nodup Std.ExtTreeMap.nodup_keys, Std.ExtTreeMap.length_keys]
  rfl

def standardIds : List String :=
  standards.map Standard.publicId

theorem nodup_standardIds : standardIds.Nodup := by
  decide +kernel

end Catalog

namespace Settings

open Catalog

variable (settings : Settings) (root : String)

def resourceIds : List String :=
  settings.resources.map Prod.fst

-- Where a project has a standard definition: in its own directory of them, or else bundled.
def standardSource (standard : Standard) : DtdSource :=
  match settings.dtdDirectory with
  | some directory => .file (Path.join (Path.join root directory) standard.fileName)
  | none => .bundled standard.text

theorem catalog_eq : settings.catalog root =
    insertAll Prod.fst (fun entry => .file (Path.join root entry.2)) settings.resources
      (insertAll Standard.publicId (settings.standardSource root) standards empty) := by
  rw [catalog]
  cases hdirectory : settings.dtdDirectory with
  | none => simp only [bundled, insertAll, addFile, standardSource, hdirectory]
  | some directory => simp only [inDirectory, insertAll, addFile, standardSource, hdirectory]

-- No identifier is there twice.
theorem nodup_resourceIds : settings.resourceIds.Nodup := by
  rw [resourceIds, resources, Std.ExtTreeMap.map_fst_toList_eq_keys]
  exact Std.ExtTreeMap.nodup_keys

theorem source?_of_resource {publicId path : String}
    (hmem : (publicId, path) ∈ settings.resources) :
    (settings.catalog root).source? publicId = some (.file (Path.join root path)) := by
  rw [catalog_eq]
  exact source?_insertAll_of_mem Prod.fst _ hmem settings.nodup_resourceIds

theorem source?_of_standard {standard : Standard} (hmem : standard ∈ standards)
    (hother : standard.publicId ∉ settings.resourceIds) :
    (settings.catalog root).source? standard.publicId =
      some (settings.standardSource root standard) := by
  rw [catalog_eq, source?_insertAll_of_notMem Prod.fst _ hother]
  exact source?_insertAll_of_mem Standard.publicId _ hmem nodup_standardIds

theorem source?_of_foreign {publicId : String} (hother : publicId ∉ settings.resourceIds)
    (hforeign : publicId ∉ standardIds) : (settings.catalog root).source? publicId = none := by
  rw [catalog_eq, source?_insertAll_of_notMem Prod.fst _ hother,
    source?_insertAll_of_notMem Standard.publicId _ hforeign, source?_empty]

theorem isSome_source?_iff (publicId : String) :
    ((settings.catalog root).source? publicId).isSome ↔
      publicId ∈ standardIds ∨ publicId ∈ settings.resourceIds := by
  by_cases hmem : publicId ∈ settings.resourceIds
  · obtain ⟨⟨id, path⟩, hentry, rfl⟩ := List.mem_map.mp hmem
    simp [settings.source?_of_resource root hentry, hmem]
  · by_cases hknown : publicId ∈ standardIds
    · obtain ⟨standard, hentry, rfl⟩ := List.mem_map.mp hknown
      simp [settings.source?_of_standard root hentry hmem, hknown]
    · simp [settings.source?_of_foreign root hmem hknown, hmem, hknown]

-- The resources of a project come before the standard definitions. Nothing else is known.
theorem catalog_precedence :
    (∀ publicId path, (publicId, path) ∈ settings.resources →
      (settings.catalog root).source? publicId = some (.file (Path.join root path))) ∧
    (∀ standard ∈ standards, standard.publicId ∉ settings.resourceIds →
      (settings.catalog root).source? standard.publicId =
        some (settings.standardSource root standard)) ∧
    (∀ publicId, publicId ∉ settings.resourceIds → publicId ∉ standardIds →
      (settings.catalog root).source? publicId = none) ∧
    (settings.catalog root).size = (standardIds ++ settings.resourceIds).toFinset.card := by
  refine ⟨fun _ _ => settings.source?_of_resource root, fun _ => settings.source?_of_standard root,
    fun _ => settings.source?_of_foreign root, ?_⟩
  apply size_eq_card
  intro publicId
  rw [settings.isSome_source?_iff root, List.mem_toFinset, List.mem_append]

-- A project with a directory of definitions that has one of them elsewhere, and one of its own.
theorem catalog_precedence_override :
    let settings : Settings := ⟨true, some "dtd", .ofList
      [("-//ACME//DTD Widgets//EN", "/widgets.dtd"),
        ("-//W3C//DTD XHTML 1.0 Strict//EN", "strict.dtd")]⟩
    let catalog := settings.catalog "site"
    settings.resourceIds.Nodup ∧
      catalog.source? "-//ACME//DTD Widgets//EN" = some (.file "/widgets.dtd") ∧
      catalog.source? "-//W3C//DTD XHTML 1.0 Strict//EN" = some (.file "site/strict.dtd") ∧
      catalog.source? "-//W3C//DTD HTML 4.01//EN" = some (.file "site/dtd/xhtml1-strict.dtd") ∧
      catalog.size = 10 := by
  intro settings catalog
  obtain ⟨hresource, hstandard, -, hsize⟩ := settings.catalog_precedence "site"
  refine ⟨settings.nodup_resourceIds, ?_, ?_, ?_, ?_⟩
  · exact hresource _ "/widgets.dtd" (by decide +kernel)
  · exact hresource _ "strict.dtd" (by decide +kernel)
  · exact hstandard ⟨"-//W3C//DTD HTML 4.01//EN", "xhtml1-strict.dtd", Bundled.strictDtd⟩
      (by simp [standards]) (by decide +kernel)
  · rw [hsize]
    decide +kernel

end Settings

end TemplateMarkup
