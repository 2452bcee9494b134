import WikiGraph.Graph.Error
import WikiGraph.Proofs.Text.LowerCase
/-!
# Refusals told by a report

A report of the database is taken for a refusal exactly if some piece of it is one of the phrases of a
refusal but for the case of ASCII letters (`isPermissionDenial_iff`). The search goes through the whole
report in lower case, but what it finds is ASCII: nothing that stands around a phrase hides it, and no
character above ASCII helps to spell one, since each may be replaced by any other
(`namesRefusal_replaceWide_iff`).
-/
namespace WikiGraph.GraphError

open WikiGraph.Text

/-- A report names a refusal: a piece of it is one of the phrases but for the case of ASCII letters. -/
def NamesRefusal (report : List Char) : Prop :=
  ∃ marker ∈ denialMarkers, ∃ piece, piece <:+: report ∧ SameButCase piece marker.toList

/-! ## Phrases -/

variable {marker : String} {report piece : List Char}

/-- No phrase has a `k`, and none ends in `i`. -/
theorem unforgeable_of_mem : ∀ marker ∈ denialMarkers,
    Unforgeable (marker.toList.map Char.toLower) := by
  decide +kernel

/-- **What is a phrase in any case is ASCII**, as is the phrase. -/
theorem isAscii_of_sameButCase (h : SameButCase piece marker.toList) (hm : marker ∈ denialMarkers) :
    IsAscii piece := by
  have hlower : IsAscii (piece.map Char.toLower) :=
    sameButCase_iff.1 h ▸ (unforgeable_of_mem marker hm).isAscii
  exact isAscii_map_toLower_iff.1 hlower

theorem contains_marker_iff (hm : marker ∈ denialMarkers) :
    contains (lowerCase marker.toList) (lowerCase report) = true ↔
      ∃ piece, piece <:+: report ∧ SameButCase piece marker.toList := by
  have hascii : IsAscii marker.toList := isAscii_of_sameButCase (sameButCase_iff.2 rfl) hm
  rw [lowerCase_of_ascii hascii, contains_iff_infix,
    infix_lowerCase_iff (unforgeable_of_mem marker hm)]
  simp only [sameButCase_iff]

/-! ## Reports -/

/-- **A report is a refusal exactly if it names one.** -/
theorem isPermissionDenial_iff : isPermissionDenial report = true ↔ NamesRefusal report := by
  rw [isPermissionDenial, List.any_eq_true]
  exact exists_congr fun marker => and_congr_right contains_marker_iff

/-- **Characters above ASCII neither hide a refusal nor forge one.** -/
theorem namesRefusal_replaceWide_iff {other : Char → { d : Char // 0x80 ≤ d.toNat }} :
    NamesRefusal (replaceWide other report) ↔ NamesRefusal report := by
  refine exists_congr fun marker => and_congr_right fun hm => exists_congr fun piece => ?_
  exact and_congr_left fun hsame => infix_replaceWide_iff (isAscii_of_sameButCase hsame hm)

/-- A report whose letters are in any case, and one that is spelled with dotted capital letters. -/
example : isPermissionDenial "ΑΣPerMission DENIEDΣ".toList ∧
    ¬ isPermissionDenial "PERM\u0130SS\u0130ON DENIED".toList := by decide +kernel

theorem ofReport_cases (report : String) :
    NamesRefusal report.toList ∧ ofReport report = permissionDenied report ∨
      ¬ NamesRefusal report.toList ∧ ofReport report = query report := by
  by_cases h : isPermissionDenial report.toList = true
  · exact .inl ⟨isPermissionDenial_iff.1 h, if_pos h⟩
  · exact .inr ⟨fun hn => h (isPermissionDenial_iff.2 hn), if_neg h⟩

/-- **A refusal is told by its phrase alone.** A report is taken for a refusal exactly if a piece of it
is one of the phrases in any case, whatever stands around it; otherwise it is a failure of the query.
Its characters above ASCII may be any others. -/
theorem refusal_told_by_phrase_alone (report : String) :
    (isPermissionDenial report.toList = true ↔ NamesRefusal report.toList) ∧
      ((ofReport report).isPermissionDenied = true ↔ NamesRefusal report.toList) ∧
      (ofReport report = permissionDenied report ↔ NamesRefusal report.toList) ∧
      (ofReport report = query report ↔ ¬ NamesRefusal report.toList) ∧
      ∀ other, isPermissionDenial (replaceWide other report.toList) =
        isPermissionDenial report.toList := by
  refine ⟨isPermissionDenial_iff, ?_, ?_, ?_, fun other => ?_⟩
  · rw [isPermissionDenied_ofReport, isPermissionDenial_iff]
  · rcases ofReport_cases report with ⟨hnames, heq⟩ | ⟨hnames, heq⟩ <;> simp [heq, hnames]
  · rcases ofReport_cases report with ⟨hnames, heq⟩ | ⟨hnames, heq⟩ <;> simp [heq, hnames]
  · rw [Bool.eq_iff_iff, isPermissionDenial_iff, isPermissionDenial_iff,
      namesRefusal_replaceWide_iff]

end WikiGraph.GraphError
