import FilterSync.Http.Fetch
import FilterSync.Proofs.Rule.ClosedForm
import FilterSync.Proofs.Text.Decoding

/-!
# Damaged lists

A list is downloaded as bytes, some of which may be undecodable: another encoding was meant, or a
character was cut off by a line end or by the end of the list. This makes no difference to any other
line. The lines of the downloaded text are the texts of the byte lines, and what a line says and
which rule it makes is settled by its own bytes.

Main statement: `Http.undecodable_within_line`.
-/

namespace FilterSync

open FilterSync.Filter
open FilterSync.Text (Decodes decodeLossy byteLines lines)

namespace Rule

/-- What a rule says, whatever its identifier. -/
def template (r : Rule) : Template := ⟨r.action, r.priority, r.urlFilter, r.resourceTypes⟩

/-- The rule of a line under an identifier, if the line is a filter that has one. -/
def ofLine? (line : List Char) (id : UInt32) : Option Rule :=
  (Line.read line).filter?.bind fun (body, isAllow) => compile? body isAllow id

/-- But for its identifier, the rule of a line is the template of the line. -/
theorem template_ofLine? (line : List Char) (id : UInt32) :
    (ofLine? line id).map template = Template.ofLine? (Line.read line) := by
  unfold ofLine?
  cases hfilter : (Line.read line).filter? with
  | none =>
    have hskip : Line.read line = .skip := by
      cases hline : Line.read line with
      | skip => rfl
      | allow | block =>
        rw [hline] at hfilter
        cases hfilter
    rw [hskip]
    rfl
  | some f =>
    obtain ⟨body, isAllow⟩ := f
    rw [Template.ofLine?_of_filter? hfilter]
    show (compile? body isAllow id).map template = _
    rw [Template.compile?_eq, Option.map_map]
    exact Option.map_id'

end Rule

namespace Http

variable {body : List UInt8} {r : Reply}

/-- A reply brings a list whose body are these bytes. -/
structure Reply.Brings (r : Reply) (body : List UInt8) : Prop where
  success : r.isSuccess = true
  whole : r.body? = some body

theorem download_of_brings (h : r.Brings body) (url : String) :
    download url (some r) = .ok (String.ofList (decodeLossy body)) := by
  have hsuccess := h.success
  simp only [Reply.isSuccess, Bool.and_eq_true, decide_eq_true_eq] at hsuccess
  have hreply : (!r.hasStatus || r.isInterim) = false := by
    simp [Reply.hasStatus, Reply.isInterim]
    omega
  simp only [download, hreply, h.success, h.whole]
  rfl

/-- The lines of a list are those of its bytes, each decoded by itself: the decoder replaces the
undecodable pieces and nothing else, and the download is what it makes of the body. So a line with
certain bytes says the same and makes the same rule but for its identifier in every list that has
it, whatever the other lines hold. -/
theorem undecodable_within_line (body : List UInt8) :
    (∀ text, Decodes body text ↔ text = decodeLossy body) ∧
    (∀ url r, Reply.Brings r body →
      download url (some r) = .ok (String.ofList (decodeLossy body))) ∧
    lines (decodeLossy body) = (byteLines body).map decodeLossy ∧
    Template.ofText (decodeLossy body) =
      (byteLines body).filterMap (fun line => Template.ofLine? (Line.read (decodeLossy line))) ∧
    ∀ (body' : List UInt8) (i : Nat), (byteLines body')[i]? = (byteLines body)[i]? →
      (lines (decodeLossy body'))[i]?.map Line.read = (lines (decodeLossy body))[i]?.map Line.read ∧
      ∀ id id', ((lines (decodeLossy body'))[i]?.bind (Rule.ofLine? · id')).map Rule.template =
        ((lines (decodeLossy body))[i]?.bind (Rule.ofLine? · id)).map Rule.template := by
  have hlines := Text.lines_decodeLossy
  refine ⟨fun text => Text.decodes_iff, fun url r h => download_of_brings h url, hlines body,
    ?_, ?_⟩
  · rw [Template.ofText_eq_lines, hlines, List.map_map, List.filterMap_map]
    rfl
  · intro body' i h
    have hline : (lines (decodeLossy body'))[i]? = (lines (decodeLossy body))[i]? := by
      rw [hlines, hlines, List.getElem?_map, List.getElem?_map, h]
    refine ⟨by rw [hline], ?_⟩
    intro id id'
    rw [hline, Option.map_bind, Option.map_bind]
    congr 1
    funext line
    rw [Function.comp_apply, Function.comp_apply, Rule.template_ofLine?, Rule.template_ofLine?]

/-- Bytes in which a filter has a byte of another encoding, and the last line is cut off. -/
def cutOff : List UInt8 :=
  "||ads.example^\n||caf".toList.flatMap Text.encodeChar ++ 0xE9 ::
    ".example^$image\r\n".toList.flatMap Text.encodeChar ++ [0xF0, 0x9F]

/-- The same filter behind a line whose end cuts a character off. -/
def cutByLineEnd : List UInt8 :=
  [0xE2, 0x82, 0x0A] ++ "||caf".toList.flatMap Text.encodeChar ++ 0xE9 ::
    ".example^$image\r\n@@||more.example^".toList.flatMap Text.encodeChar

theorem undecodable_within_line_cutOff :
    download "https://a" (some ⟨200, none, cutOff⟩) =
        .ok "||ads.example^\n||caf\uFFFD.example^$image\r\n\uFFFD" ∧
      (byteLines cutByLineEnd)[1]? = (byteLines cutOff)[1]? ∧
      (lines (decodeLossy cutByLineEnd))[1]?.map Line.read =
        some (.block "||caf\uFFFD.example^$image".toList) ∧
      ((lines (decodeLossy cutByLineEnd))[1]?.bind (Rule.ofLine? · 7)).map Rule.template =
        some ⟨.block, 1, "||caf\uFFFD.example", some (.ofList [.image])⟩ := by
  have hsame : (byteLines cutByLineEnd)[1]? = (byteLines cutOff)[1]? := by decide +kernel
  obtain ⟨-, hdownload, -, -, hlines⟩ := undecodable_within_line cutOff
  obtain ⟨hread, hrule⟩ := hlines cutByLineEnd 1 hsame
  have hbrings : Reply.Brings ⟨200, none, cutOff⟩ cutOff := ⟨by decide, by decide⟩
  refine ⟨?_, hsame, ?_, ?_⟩
  · rw [hdownload "https://a" _ hbrings]
    decide +kernel
  · rw [hread]
    decide +kernel
  · rw [hrule 1 7]
    decide +kernel

end Http

end FilterSync
