import CatalogAudit.Proofs.Source.Usage
import Mathlib.Data.List.Perm.Basic
import Mathlib.Data.List.Nodup

/-!
# Recorded occurrences

A usage sorts occurrences by their texts, and it keeps each of them. So the
occurrences of all texts are those of the records that the usage is built from,
in another order.

* `Usage.all`: the occurrences of all texts.
* `Usage.all_ofList`, `Usage.all_merge`: those of a usage that is built from
  records or from other usages.
* `Extraction.all_used`: those of the sources.
-/

namespace CatalogAudit

open List (Perm)

namespace Usage

/-- The occurrences of all texts. -/
def all (u : Usage) : List Occurrence :=
  u.toList.flatMap (·.2)

variable {u v : Usage}

/-- Appending to the values at one key adds to all values what is appended. -/
theorem flatMap_alterEntries {β : Type} (key : String) (values : List β)
    (l : List (String × List β)) :
    ((TextMap.alterEntries key (fun old => old.getD [] ++ values) l).flatMap (·.2)).Perm
      (l.flatMap (·.2) ++ values) := by
  induction l with
  | nil => simp [TextMap.alterEntries]
  | cons e rest ih =>
    obtain ⟨k, v⟩ := e
    rw [TextMap.alterEntries]
    -- The key is new here, or it is that of the first entry, or it belongs further down.
    split
    · exact List.perm_append_comm
    · split
      · simp only [List.flatMap_cons, Option.getD_some, List.append_assoc]
        exact List.perm_append_comm.append_left v
      · simp only [List.flatMap_cons, List.append_assoc]
        exact ih.append_left v

theorem all_append {text : String} {occurrences : List Occurrence} {ht : text ≠ ""}
    {ho : occurrences ≠ []} :
    (u.append text occurrences ht ho).all.Perm (u.all ++ occurrences) :=
  flatMap_alterEntries text occurrences _

theorem all_foldl_record {records : List (String × Occurrence)} (h : ∀ r ∈ records, r.1 ≠ "") :
    (records.foldl (fun u r => u.record r.1 r.2) u).all.Perm (u.all ++ records.map (·.2)) := by
  induction records generalizing u with
  | nil => simp
  | cons r records ih =>
    have hrecord : (u.record r.1 r.2).all.Perm (u.all ++ [r.2]) := by
      rw [record, dif_neg (h r List.mem_cons_self)]
      exact all_append
    have hrest := ih (u := u.record r.1 r.2) fun x hx => h x (List.mem_cons_of_mem r hx)
    rw [List.foldl_cons, List.map_cons, List.append_cons]
    exact hrest.trans (hrecord.append_right _)

/-- A usage of records has their occurrences. -/
theorem all_ofList {records : List (String × Occurrence)} (h : ∀ r ∈ records, r.1 ≠ "") :
    (ofList records).all.Perm (records.map (·.2)) :=
  all_foldl_record h

theorem all_merge : (u.merge v).all.Perm (u.all ++ v.all) := by
  have hentries : v.all = v.occurrencesOf.entries.attach.flatMap (·.1.2) := by
    rw [all, toList, ← List.attach_map_subtype_val v.occurrencesOf.entries, List.flatMap_map,
      List.attach_map_subtype_val]
  rw [hentries, merge]
  -- The entries of `v` come with the proof that they are proper, as in `contains_merge`.
  generalize v.occurrencesOf.entries.attach = l
  induction l generalizing u with
  | nil => simp
  | cons e l ih =>
    rw [List.foldl_cons, List.flatMap_cons, ← List.append_assoc]
    exact ih.trans (all_append.append_right _)

end Usage

namespace Extraction

variable {markers : Markers} {files : List SourceFile}
  {strategy : SourceFile → List (String × Occurrence)}

theorem all_foldl_merge (h : ∀ file ∈ files, ∀ r ∈ strategy file, r.1 ≠ "") {u : Usage} :
    (files.foldl (fun u file => u.merge (Usage.ofList (strategy file))) u).all.Perm
      (u.all ++ files.flatMap fun file => (strategy file).map (·.2)) := by
  induction files generalizing u with
  | nil => simp
  | cons file files ih =>
    rw [List.foldl_cons, List.flatMap_cons, ← List.append_assoc]
    refine (ih fun f hf => h f (List.mem_cons_of_mem file hf)).trans (Perm.append_right _ ?_)
    exact Usage.all_merge.trans ((Usage.all_ofList (h file List.mem_cons_self)).append_left _)

theorem all_collect (h : ∀ file ∈ files, ∀ r ∈ strategy file, r.1 ≠ "") :
    (collect files strategy).all.Perm (files.flatMap fun file => (strategy file).map (·.2)) :=
  all_foldl_merge h

/-- The sources have the occurrences that the strategies record. -/
theorem all_used (markers : Markers) (markup script : List SourceFile) :
    (ofSources markers markup script).used.all.Perm
      ((markup.flatMap fun file => (markupRecords markers file).map (·.2))
        ++ (script.flatMap fun file => (callRecords markers file).map (·.2))
        ++ (script.flatMap fun file => (embeddedRecords markers file).map (·.2))) := by
  have helements : (collect markup (markupRecords markers)).all.Perm _ :=
    all_collect fun file _ r hr => ne_empty_of_mem_records (fun _ => ne_nil_of_mem_markupFinds) hr
  have hcalls : (collect script (callRecords markers)).all.Perm _ :=
    all_collect fun file _ r hr => ne_empty_of_mem_records (fun _ => ne_nil_of_mem_callFinds) hr
  have hembedded : (collect script (embeddedRecords markers)).all.Perm _ :=
    all_collect fun file _ r hr => ne_empty_of_mem_records (fun _ => ne_nil_of_mem_embeddedFinds) hr
  exact Usage.all_merge.trans
    ((Usage.all_merge.trans (helements.append hcalls)).append hembedded)

end Extraction

end CatalogAudit
