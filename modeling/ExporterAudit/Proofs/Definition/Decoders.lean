import ExporterAudit.Definition
import ExporterAudit.QueryServer
import ExporterAudit.Proofs.Binary64.Exact
import ExporterAudit.Proofs.Exposition.Batch
import ExporterAudit.Proofs.Line.Parts
import ExporterAudit.Proofs.Line.Value
import ExporterAudit.Proofs.Shape.Accepting
import ExporterAudit.Proofs.Success

/-!
The three readers of numbers given as texts. Samples, definitions and the answers of a server give the same
number to a token, so that values written alike compare equal. The short spellings of the infinities are
the exception: they are numbers in exposition text alone.
-/

namespace ExporterAudit

open Checked

namespace Line

/-- Apart from the short infinities and not-a-number a token of exposition text is an ordinary numeral. -/
theorem ofText?_of_value? {token : Text} {value : Binary64} (hvalue : value? token = some value)
    (hnumber : value ≠ .nan) (hlong : token ∉ shortInfinities) :
    token ≠ [] ∧ Binary64.ofText? token = some value := by
  have hfilled : token ≠ [] := by
    rintro rfl
    cases hvalue
  have hword : token ∉ valueWords := by
    rw [valueWords, List.mem_cons, not_or]
    refine ⟨?_, hlong⟩
    rintro rfl
    cases hvalue
    exact hnumber rfl
  rw [value?_of_not_mem_valueWords hword hfilled] at hvalue
  exact ⟨hfilled, hvalue⟩

end Line

/-! ### Reading the token -/

/-- A word that is read as a number is one in an answer too. -/
theorem QueryServer.numeral_eq_ok {token : Text} {value : Binary64} (hunbroken : token.Unbroken)
    (hfilled : token ≠ []) (hvalue : Binary64.ofText? token = some value) :
    numeral (some (.text token)) = .ok value := by
  simp only [numeral, Shape.text, hvalue, Text.trim_of_unbroken hunbroken, if_neg hfilled]

theorem Definition.valueShape_eq_ok {token : Text} {value : Binary64} (hunbroken : token.Unbroken)
    (hfilled : token ≠ []) (hvalue : Binary64.ofText? token = some value) :
    valueShape (some (.text token)) = .ok value := by
  simp only [valueShape, hvalue, Text.trim_of_unbroken hunbroken, if_neg hfilled]

/-- Both refuse the short spellings, which only exposition text has. -/
theorem refused_of_mem_shortInfinities : ∀ token ∈ Line.shortInfinities,
    QueryServer.numeral (some (.text token)) = .refuse ("'" ++ token ++ "' is not a number") ∧
      Definition.valueShape (some (.text token)) = .refuse ("'" ++ token ++ "' is not a number") := by
  decide +kernel

/-! ### Reading what the token stands in -/

/-- The only value of a definition that lists this text. -/
theorem Definition.values_of_shape {entries : List (Text × Document)} {definition : Definition}
    {token : Text} {value : Binary64} (hread : Definition.shape (some (.map entries)) = .ok definition)
    (hlisted : Entries.get? entries "values" = some (.list [.text token]))
    (hvalue : valueShape (some (.text token)) = .ok value) : definition.values = [value] := by
  simp only [Definition.shape, Shape.object, seq_eq_ok_iff, fmap_eq_ok_iff, Shape.field_eq_ok_iff] at hread
  obtain ⟨_, labels, ⟨_, values, ⟨_, type, ⟨name, -, rfl⟩, -, rfl⟩, hvalues, rfl⟩, -, rfl⟩ := hread
  obtain ⟨items, hitems, -, hread⟩ := Shape.nonemptyList_eq_ok_iff.mp hvalues
  cases hlisted.symm.trans hitems
  obtain ⟨first, rest, hfirst, hrest, rfl⟩ := List.forall₂_cons_left_iff.mp hread
  rw [hvalue] at hfirst
  cases hfirst
  cases hrest
  rfl

/-- The record that is expected for it. -/
theorem Definition.value_of_toRecord {definition : Definition} {name : Text} {record : Record} {value : Binary64}
    (hscalar : definition.type = .counter ∨ definition.type = .gauge) (hvalues : definition.values = [value])
    (hrecord : definition.toRecord name = .ok record) : record.value = .scalar value := by
  rcases hscalar with htype | htype <;>
  · simp only [toRecord, htype, hvalues] at hrecord
    cases hrecord
    rfl

/-- A response whose first sample has this text as its value, at some time. -/
def QueryServer.Answers (response : Document) (token : Text) : Prop :=
  ∃ entries data first others time, response = .map entries ∧ Entries.get? entries "data" = some (.map data) ∧
    Entries.get? data "result" = some (.list (.map first :: others)) ∧
    Entries.get? first "value" = some (.list [time, .text token])

/-- The time that stands in front of a value plays no part. -/
theorem QueryServer.timed_eq_ok {α : Type} {shape : Shape α} {time document : Document} {value : α}
    (hread : timed shape (some (.list [time, document])) = .ok value) : shape (some document) = .ok value := by
  change Prod.snd <$> (Prod.mk <$> part [time, document] 0 .number <*> part [time, document] 1 shape) = _ at hread
  simp only [fmap_eq_ok_iff, seq_eq_ok_iff] at hread
  obtain ⟨_, ⟨_, second, ⟨first, -, rfl⟩, hsecond, rfl⟩, rfl⟩ := hread
  exact under_eq_ok_iff.mp hsecond

/-- The value of a sample in an answer is the numeral behind its time. -/
theorem QueryServer.value_of_sampleShape {entries : List (Text × Document)} {time : Document} {token : Text}
    {value : Binary64} {sample : QuerySample} (hread : sampleShape (some (.map entries)) = .ok sample)
    (htimed : Entries.get? entries "value" = some (.list [time, .text token]))
    (hvalue : numeral (some (.text token)) = .ok value) : sample.value = some value := by
  simp only [sampleShape, Shape.object, seq_eq_ok_iff, fmap_eq_ok_iff, Shape.field_eq_ok_iff, htimed] at hread
  obtain ⟨_, histogram, ⟨read, hnumber, rfl⟩, -, rfl⟩ := hread
  obtain ⟨number, hfound, rfl⟩ := Checked.map_eq_ok_iff.mp hnumber
  rw [timed_eq_ok hfound] at hvalue
  cases hvalue
  rfl

/-- The answer of such a response is the number, if the response has the right shape at all. -/
theorem QueryServer.Answers.valueOf_eq {response : Document} {token : Text} {value : Binary64} {answer : Value}
    (hanswers : Answers response token) (hvalue : numeral (some (.text token)) = .ok value)
    (hread : valueOf false response = .ok answer) : answer = .scalar value := by
  obtain ⟨entries, data, first, others, time, rfl, hdata, hresult, htimed⟩ := hanswers
  unfold valueOf at hread
  split at hread
  · cases hread
  · cases hread
  · cases hread
  · next sample rest hsamples =>
    have hresponse := toExcept_eq_ok_iff.mp hsamples
    simp only [responseShape, Shape.object, seq_eq_ok_iff, fmap_eq_ok_iff, Shape.field_eq_ok_iff, hdata,
      hresult] at hresponse
    obtain ⟨_, ⟨_, samples, ⟨status, -, rfl⟩, hlist, rfl⟩, hfirst⟩ := hresponse
    obtain ⟨items, hitems, hparts⟩ := Shape.list_eq_ok_iff.mp hlist
    cases hitems
    obtain ⟨_, _, hsample, -, rfl⟩ := List.forall₂_cons_left_iff.mp hparts
    cases hfirst
    rw [value_of_sampleShape hsample htimed hvalue] at hread
    cases hread
    rfl

/-! ### Agreement -/

/-- A sample, the record that a definition leads to expect and the answer of a server, read from texts with
the same token. -/
structure SameToken (token : Text) where
  line : Text
  sample : Sample
  /-- The entries of the definition, and the name under which its record is expected. -/
  entries : List (Text × Document)
  definition : Definition
  name : Text
  expected : Record
  response : Document
  answer : Value
  hasToken : Line.HasToken line token
  reads : Line.read line = .ok (.sample sample)
  lists : Entries.get? entries "values" = some (.list [.text token])
  defines : Definition.shape (some (.map entries)) = .ok definition
  isScalar : definition.type = .counter ∨ definition.type = .gauge
  expects : definition.toRecord name = .ok expected
  responds : QueryServer.Answers response token
  answers : QueryServer.valueOf false response = .ok answer

/-- A token of exposition text that is a number is the same number for the client of a server and in a
definition, and what is written with it is equal, unless it is one of the short infinities. Those are no
numbers for the other two. -/
theorem decoders_agree {token : Text} {value : Binary64} (hunbroken : token.Unbroken)
    (hvalue : Line.value? token = some value) (hnumber : value ≠ .nan) :
    (token ∉ Line.shortInfinities →
      QueryServer.numeral (some (.text token)) = .ok value ∧
      Definition.valueShape (some (.text token)) = .ok value ∧
      ∀ read : SameToken token, read.sample.toRecord.same read.expected = true ∧
        read.sample.toRecord.value.same read.answer = true ∧ read.expected.value.same read.answer = true) ∧
    (token ∈ Line.shortInfinities →
      QueryServer.numeral (some (.text token)) = .refuse ("'" ++ token ++ "' is not a number") ∧
      Definition.valueShape (some (.text token)) = .refuse ("'" ++ token ++ "' is not a number")) := by
  refine ⟨fun hlong => ?_, refused_of_mem_shortInfinities token⟩
  obtain ⟨hfilled, hnumeral⟩ := Line.ofText?_of_value? hvalue hnumber hlong
  have hanswered := QueryServer.numeral_eq_ok hunbroken hfilled hnumeral
  have hdefined := Definition.valueShape_eq_ok hunbroken hfilled hnumeral
  refine ⟨hanswered, hdefined, fun read => ?_⟩
  have hsample : read.sample.toRecord.value = .scalar value := by
    have hread := read.hasToken.value?_eq read.reads
    rw [hvalue] at hread
    cases hread
    rfl
  have hexpected : read.expected.value = .scalar value :=
    Definition.value_of_toRecord read.isScalar (Definition.values_of_shape read.defines read.lists hdefined)
      read.expects
  have hanswer : read.answer = .scalar value := read.responds.valueOf_eq hanswered read.answers
  have hsame := Binary64.equals_self hnumber
  rw [Record.same, hsample, hexpected, hanswer]
  exact ⟨hsame, hsame, hsame⟩

/-- A response to an instant query for one series. -/
def answerDocument (token : Text) : Document :=
  .map [("data", .map [("result", .list [.map [("value", .list [.number 0, .text token])]])])]

/-- A gauge, its definition and an answer for it. -/
def sameGauge : SameToken "+2e0" where
  line := "up +2e0"
  sample := ⟨"up", .empty, 2⟩
  entries := [("name", .text "up"), ("type", .text "gauge"), ("values", .list [.text "+2e0"])]
  definition := ⟨"up", .gauge, [2], .empty⟩
  name := "up"
  expected := .scalar "up" 2 .empty
  response := answerDocument "+2e0"
  answer := .scalar 2
  hasToken := ⟨⟨"up", none, "+2e0"⟩, Line.sampleParts?_eq_some_iff.mp (by decide +kernel), rfl⟩
  reads := toOption_eq_some_iff.mp (by decide +kernel)
  lists := rfl
  defines := by decide +kernel
  isScalar := .inr rfl
  expects := rfl
  responds := ⟨_, _, _, [], .number 0, rfl, rfl, rfl, rfl⟩
  answers := toOption_eq_some_iff.mp (by decide +kernel)

theorem decoders_agree_sameGauge :
    Line.value? "+2e0" = some 2 ∧ "+2e0".toList ∉ Line.shortInfinities ∧
    QueryServer.numeral (some (.text "+2e0")) = .ok 2 ∧ Definition.valueShape (some (.text "+2e0")) = .ok 2 ∧
    sameGauge.sample.toRecord.same sameGauge.expected = true ∧
    sameGauge.expected.value.same sameGauge.answer = true := by
  have hvalue : Line.value? "+2e0" = some 2 := by decide +kernel
  have hlong : "+2e0".toList ∉ Line.shortInfinities := by decide
  obtain ⟨hagree, -⟩ := decoders_agree (by decide) hvalue (by decide +kernel)
  obtain ⟨hanswered, hdefined, hsame⟩ := hagree hlong
  obtain ⟨hexpected, -, hanswer⟩ := hsame sameGauge
  exact ⟨hvalue, hlong, hanswered, hdefined, hexpected, hanswer⟩

/-- An infinity as servers write it is a number in exposition text, but neither a definition nor an answer
can hold it. -/
theorem decoders_differ_of_shortInfinity :
    Text.Unbroken "+Inf" ∧ Line.value? "+Inf" = some (.infinity false) ∧
    QueryServer.numeral (some (.text "+Inf")) ≠ .ok (.infinity false) ∧
    Definition.valueShape (some (.text "+Inf")) ≠ .ok (.infinity false) ∧
    (QueryServer.valueOf false (answerDocument "+Inf")).toOption = none := by
  decide +kernel

end ExporterAudit
