import Dunning.Proofs.Condition.Meaning
import Dunning.Proofs.Conversation.Lines
import Dunning.Proofs.Document.Extraction
import Dunning.Proofs.Text.Trim

/-!
# What the intention of a line tells

The router `route` sees a typed line and nothing else. The conditions of a flow see the context in
which the line was heard, where fields of earlier lines and actions still stand. Both come to the
same answer about the line: its message is the latest one, and a document number is stored before
any condition is asked, so a number that only the router can read, such as one with dots, is found
in its field (`agrees_heardLine`).
-/

namespace Dunning

/-! ## Document numbers -/

/-- A stored number that `Document.extract?` gave is long enough to be valid. -/
theorem Builtin.hasValidDocument_of_extract? {ctx : Context} {message document : String}
    (h : Document.extract? message = some document)
    (hstored : ctx.get? Routing.documentKey = some (.str document)) :
    hasValidDocument.holds ctx = true := by
  obtain ⟨hdigits, hlength, _⟩ := Document.digits_of_extract? h
  have htrimmed : Text.trimList document.toList = document.toList :=
    Text.trimList_of_solid fun c hc => Text.isBlank_of_isDigit (hdigits c hc)
  have hlong : minDocumentLength ≤ documentLength ctx := by
    rw [Routing.documentKey] at hstored
    rw [documentLength, hstored]
    show minDocumentLength ≤ (Text.trimList document.toList).length
    rw [htrimmed]
    exact hlength
  simp [holds, hlong]

/-! ## Phrases -/

namespace Routing

/-- The intention of a line that holds a document number or not, shows frustration or not, and
mentions a plan or not. -/
def tag (document frustrated planned : Bool) : String :=
  bif document then "entregar_documento"
  else bif frustrated then "objecion"
  else bif planned then "seleccionar_plan"
  else "conversacion"

section
variable {document frustrated planned : Bool}

theorem tag_mem : tag document frustrated planned ∈
    ["entregar_documento", "objecion", "seleccionar_plan", "conversacion"] := by
  revert document frustrated planned
  decide

theorem tag_eq_document_iff :
    tag document frustrated planned = "entregar_documento" ↔ document = true := by
  revert document frustrated planned
  decide

theorem tag_eq_objection_iff :
    tag document frustrated planned = "objecion" ↔ document = false ∧ frustrated = true := by
  revert document frustrated planned
  decide

theorem tag_eq_plan_iff : tag document frustrated planned = "seleccionar_plan" ↔
    document = false ∧ frustrated = false ∧ planned = true := by
  revert document frustrated planned
  decide

theorem tag_eq_talk_iff : tag document frustrated planned = "conversacion" ↔
    document = false ∧ frustrated = false ∧ planned = false := by
  revert document frustrated planned
  decide

end

/-- `intention` asks its questions about the line alone. -/
theorem intention_eq_tag (line : String) :
    intention line = tag (Document.extract? line).isSome
      (Text.mentionsAny line Builtin.frustrationPhrases)
      (Text.mentionsAny line Builtin.planPhrases) := by
  have hmessage : (Context.ofMessage line).message = line := Context.message_setMessage _ line
  have hfrustration : Builtin.showsFrustration.holds (Context.ofMessage line) =
      Text.mentionsAny line Builtin.frustrationPhrases := by
    rw [Builtin.holds, hmessage]
  have hplan : Builtin.planSelected.holds (Context.ofMessage line) =
      Text.mentionsAny line Builtin.planPhrases := by
    have hunset : (Context.ofMessage line).isTruthy "plan_seleccionado" = false := rfl
    rw [Builtin.holds, hmessage, hunset, Bool.false_or]
  unfold intention tag
  dsimp only
  rw [hfrustration, hplan]
  simp only [cond_eq_ite]

/-- What the conditions of a flow say about `line` in the context in which it was heard. -/
structure Agrees (ev : Evaluator) (line : String) (ctx : Context) : Prop where
  /-- The intention is stored under `Conversation.intentionKey`, and is one of four. -/
  stored : ctx.get? Conversation.intentionKey = (route line).intention.map .str ∧
    ∃ tag ∈ ["entregar_documento", "objecion", "seleccionar_plan", "conversacion"],
      (route line).intention = some tag
  /-- A document that is handed over is the number in `line`, and it is valid. -/
  document : (route line).intention = some "entregar_documento" →
    (∃ document, Document.extract? line = some document ∧
      ctx.get? documentKey = some (.str document)) ∧
    ev.evaluate "tiene_documento_valido" ctx = true
  /-- An objection shows frustration. -/
  objection : (route line).intention = some "objecion" →
    ev.evaluate "cliente_muestra_frustracion" ctx = true
  /-- The choice of a plan is one, and shows no frustration. -/
  plan : (route line).intention = some "seleccionar_plan" →
    ev.evaluate "cliente_selecciona_plan" ctx = true ∧
    ev.evaluate "cliente_muestra_frustracion" ctx = false
  /-- Small talk shows no frustration, and chooses no plan that was not chosen before. -/
  talk : (route line).intention = some "conversacion" →
    ev.evaluate "cliente_muestra_frustracion" ctx = false ∧
    (ev.evaluate "cliente_selecciona_plan" ctx = true → ctx.isTruthy "plan_seleccionado" = true)

end Routing

/-! ## The context in which a line was heard -/

namespace Conversation

variable (c : Conversation) (line : String)

theorem heardLine_intention :
    (c.heardLine line).get? intentionKey = some (.str (Routing.intention line)) := by
  rw [heardLine, heard_get?, if_neg intentionKey_ne_messageKey, if_pos rfl]
  rfl

theorem heardLine_document {document : String} (h : Document.extract? line = some document) :
    (c.heardLine line).get? Routing.documentKey = some (.str document) := by
  have hmessage : Routing.documentKey ≠ Context.messageKey := by decide
  have hintention : Routing.documentKey ≠ intentionKey := by decide
  rw [heardLine, heard_get?, if_neg hmessage, if_neg hintention, knowDocument, h]
  exact Context.get?_insert_self c.context Routing.documentKey (.str document)

theorem evaluate_frustration_heardLine (ev : Evaluator) :
    ev.evaluate "cliente_muestra_frustracion" (c.heardLine line) =
      Text.mentionsAny line Builtin.frustrationPhrases := by
  have hname := ev.evaluate_name .showsFrustration (c.heardLine line)
  rwa [Builtin.holds, heardLine, heard, Context.message_setMessage] at hname

theorem evaluate_plan_heardLine (ev : Evaluator) :
    ev.evaluate "cliente_selecciona_plan" (c.heardLine line) =
      ((c.heardLine line).isTruthy "plan_seleccionado" ||
        Text.mentionsAny line Builtin.planPhrases) := by
  have hname := ev.evaluate_name .planSelected (c.heardLine line)
  have hmessage : (c.heardLine line).message = line := Context.message_setMessage _ line
  rwa [Builtin.holds, hmessage] at hname

end Conversation

namespace Routing

/-- What `route` says of a line holds in whatever context the line is heard. -/
theorem agrees_heardLine (ev : Evaluator) (c : Conversation) (line : String) :
    Agrees ev line (c.heardLine line) := by
  have hroute : (route line).intention = some (intention line) := rfl
  constructor
  case stored =>
    refine ⟨c.heardLine_intention line, intention line, ?_, hroute⟩
    rw [intention_eq_tag]
    exact tag_mem
  case document =>
    intro htag
    rw [hroute, Option.some.injEq, intention_eq_tag, tag_eq_document_iff] at htag
    obtain ⟨document, hdocument⟩ := Option.isSome_iff_exists.1 htag
    have hstored := c.heardLine_document line hdocument
    refine ⟨⟨document, hdocument, hstored⟩, ?_⟩
    exact (ev.evaluate_name .hasValidDocument _).trans
      (Builtin.hasValidDocument_of_extract? hdocument hstored)
  case objection =>
    intro htag
    rw [hroute, Option.some.injEq, intention_eq_tag, tag_eq_objection_iff] at htag
    rw [c.evaluate_frustration_heardLine, htag.2]
  case plan =>
    intro htag
    rw [hroute, Option.some.injEq, intention_eq_tag, tag_eq_plan_iff] at htag
    obtain ⟨_, hfrustrated, hplanned⟩ := htag
    rw [c.evaluate_frustration_heardLine, c.evaluate_plan_heardLine, hfrustrated, hplanned]
    exact ⟨Bool.or_true _, rfl⟩
  case talk =>
    intro htag
    rw [hroute, Option.some.injEq, intention_eq_tag, tag_eq_talk_iff] at htag
    obtain ⟨_, hfrustrated, hplanned⟩ := htag
    rw [c.evaluate_frustration_heardLine, c.evaluate_plan_heardLine, hfrustrated, hplanned,
      Bool.or_false]
    exact ⟨rfl, id⟩

end Routing

/-- A typed line is taken up in a context that `Agrees` with the router, and where nothing else has
changed. -/
theorem Engine.agrees_dispatchLine (e : Engine) (m : Monitor) (around : Circumstances)
    (c : Conversation) (line : String) :
    (e.dispatchLine m around c line).step = e.step around c.state (c.heardLine line) ∧
    Routing.Agrees e.conditions line (c.heardLine line) ∧
    ∀ key, key ∉ Conversation.heardKeys → (c.heardLine line).get? key = c.context.get? key :=
  ⟨e.dispatchLine_step m around c line, Routing.agrees_heardLine e.conditions c line,
    fun _ hkey => c.heardLine_get? line hkey⟩

end Dunning
