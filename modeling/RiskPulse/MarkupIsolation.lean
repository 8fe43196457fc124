import RiskPulse.AlertTemplates
import RiskPulse.Library.Fallible

namespace RiskPulse

namespace AlertTemplates
open OrderedDict Html

def Plain (entries : List (String × String)) : Prop := ∀ entry ∈ entries, '<' ∉ entry.2.toList

theorem plain_nil : Plain [] := by simp [Plain]

theorem plain_entry (key : String) (text : List Char) (rest : List (String × String)) (here : '<' ∉ text)
    (later : Plain rest) : Plain ((key,String.ofList text) :: rest) := by
  intro entry member
  obtain same | old := List.mem_cons.mp member
  · subst same
    rwa [String.toList_ofList]
  · exact later entry old

theorem enUS_plain : Plain enUS := by
  repeat apply plain_entry _ _ _ (by decide)
  exact plain_nil

theorem esES_plain : Plain esES := by
  repeat apply plain_entry _ _ _ (by decide)
  exact plain_nil

theorem frFR_plain : Plain frFR := by
  repeat apply plain_entry _ _ _ (by decide)
  exact plain_nil

theorem deDE_plain : Plain deDE := by
  repeat apply plain_entry _ _ _ (by decide)
  exact plain_nil

theorem ptBR_plain : Plain ptBR := by
  repeat apply plain_entry _ _ _ (by decide)
  exact plain_nil

theorem localeStrings_plain : ∀ table ∈ localeStrings, Plain table.2 := by
  simp only [localeStrings,List.forall_mem_cons]
  exact ⟨enUS_plain,esES_plain,frFR_plain,deDE_plain,ptBR_plain,enUS_plain,by simp⟩

-- No text of any language holds a <.
theorem getString_plain (locale key : String) (known : (lookupEntry key enUS).isSome = true) :
    '<' ∉ (getString locale key).toList := by
  change '<' ∉ ((lookupEntry key ((lookupEntry locale localeStrings).getD enUS)).getD ((lookupEntry key enUS).getD key)).toList
  have strings : Plain ((lookupEntry locale localeStrings).getD enUS) := by
    cases found : lookupEntry locale localeStrings with
    | none => exact enUS_plain
    | some table => exact localeStrings_plain _ (lookupEntry_listed _ found)
  cases found : lookupEntry key ((lookupEntry locale localeStrings).getD enUS) with
  | some text => exact strings _ (lookupEntry_listed _ found)
  | none =>
    obtain ⟨text,fallback⟩ := Option.isSome_iff_exists.mp known
    rw [fallback]
    exact enUS_plain _ (lookupEntry_listed _ fallback)

end AlertTemplates

namespace AlertTemplateRenderer
open AlertTemplates Html Fallible

theorem label_inert (r : AlertTemplateRenderer) (key : String) (known : (OrderedDict.lookupEntry key enUS).isSome = true) :
    inert (r.s key).toList = true := inert_plain _ (getString_plain r.locale key known)

theorem typeTitle_inert (r : AlertTemplateRenderer) (alertType : AlertType) : inert (r.getTypeTitle alertType).toList = true := by
  apply r.label_inert
  cases alertType <;> decide

theorem severityMessage_inert (r : AlertTemplateRenderer) (severity : AlertSeverity) :
    inert (r.getSeverityMessage severity).toList = true := by
  apply r.label_inert
  cases severity <;> decide

theorem severity_inert (severity : AlertSeverity) : inert severity.value.toUpper.toList = true := by
  cases severity <;> decide +kernel

-- The texts of the template itself are inert, so it is on the alert's texts alone.
theorem template_inert (r : AlertTemplateRenderer) (h : TemplateHost) (alert : Alert) (fields : EmailFields)
    (scored : h.fixed 4 alert.riskScore = .ok fields.score) :
    (∀ field ∈ (r.emailTemplate h alert fields).fields, inert field.1 = true) ↔
      ∀ text ∈ fields.untrusted, inert text.toList = true := by
  have score : inert fields.score.toList = true := inert_plain _ (h.fixed_plain scored)
  have created : inert (h.isoformat alert.createdAt).toList = true := inert_plain _ h.isoformat_plain
  simp (disch := decide) only [emailTemplate,EmailFields.untrusted,List.forall_mem_cons,r.label_inert,r.typeTitle_inert,
    r.severityMessage_inert,severity_inert,score,created,true_and]
  simp

theorem emailFields_score (taken : emailFields h alert = .ok fields) : h.fixed 4 alert.riskScore = .ok fields.score := by
  unfold emailFields at taken
  obtain ⟨txnDetails,_,taken⟩ := bind_ok.mp taken
  obtain ⟨amount,_,taken⟩ := bind_ok.mp taken
  obtain ⟨currency,_,taken⟩ := bind_ok.mp taken
  obtain ⟨merchant,_,taken⟩ := bind_ok.mp taken
  obtain ⟨channel,_,taken⟩ := bind_ok.mp taken
  obtain ⟨timestamp,_,taken⟩ := bind_ok.mp taken
  obtain ⟨score,scored,taken⟩ := bind_ok.mp taken
  obtain ⟨accountText,_,taken⟩ := bind_ok.mp taken
  obtain ⟨amountText,_,taken⟩ := bind_ok.mp taken
  obtain ⟨currencyText,_,taken⟩ := bind_ok.mp taken
  obtain ⟨merchantText,_,taken⟩ := bind_ok.mp taken
  obtain ⟨channelText,_,taken⟩ := bind_ok.mp taken
  obtain ⟨timestampText,_,taken⟩ := bind_ok.mp taken
  cases taken
  exact scored

theorem renderEmail_body (rendered : renderEmail r h alert = .ok email) : ∃ fields, emailFields h alert = .ok fields ∧
    email.htmlBody = some (String.ofList (r.emailTemplate h alert fields).source) := by
  unfold renderEmail at rendered
  obtain ⟨subject,_,rendered⟩ := bind_ok.mp rendered
  obtain ⟨score,_,rendered⟩ := bind_ok.mp rendered
  obtain ⟨account,_,rendered⟩ := bind_ok.mp rendered
  obtain ⟨transaction,_,rendered⟩ := bind_ok.mp rendered
  obtain ⟨txnDetails,_,rendered⟩ := bind_ok.mp rendered
  obtain ⟨details,_,rendered⟩ := bind_ok.mp rendered
  obtain ⟨htmlBody,made,rendered⟩ := bind_ok.mp rendered
  obtain ⟨fields,taken,filled⟩ := bind_ok.mp made
  have body := congrArg (fun sent : EmailAlert => sent.htmlBody) (Except.ok.inj rendered)
  have source := Except.ok.inj filled
  exact ⟨fields,taken,body.symm.trans (congrArg some source.symm)⟩

-- Another alert of the same kind: only the texts are different.
def Alike (a b : Alert) : Prop := ∃ accountId alertId description details,
  b = {a with accountId := accountId, alertId := alertId, description := description, details := details}

-- What a mail program makes of the HTML body.
def bodyTokens (email : EmailAlert) : List Token := Html.read .data (email.htmlBody.getD "").toList

-- Every field of the alert came out as text and as nothing else.
def ShownAsText (r : AlertTemplateRenderer) (h : TemplateHost) (alert : Alert) (email : EmailAlert) : Prop :=
  ∀ fields, emailFields h alert = .ok fields → bodyTokens email = (r.emailTemplate h alert fields).meant

def Isolated (r : AlertTemplateRenderer) (h : TemplateHost) (a b : Alert) (first second : EmailAlert) : Prop :=
  tags (bodyTokens first) = tags (bodyTokens second) ∧ ShownAsText r h a first ∧ ShownAsText r h b second

-- No < in the texts of the alert is followed by a letter, a slash, a ! or a ?.
def InertTexts (h : TemplateHost) (alert : Alert) : Prop :=
  ∀ fields, emailFields h alert = .ok fields → ∀ text ∈ fields.untrusted, inert text.toList = true

theorem shown_inert (rendered : renderEmail r h alert = .ok email) : ShownAsText r h alert email ↔ InertTexts h alert := by
  obtain ⟨fields,taken,body⟩ := renderEmail_body rendered
  have tokens : bodyTokens email = Html.read .data (r.emailTemplate h alert fields).source := by
    simp [bodyTokens,body]
  have exact := (r.emailTemplate h alert fields).read_meant.trans (r.template_inert h alert fields (emailFields_score taken))
  unfold ShownAsText InertTexts
  rw [taken,tokens]
  simpa using exact

theorem alike_tags (alike : Alike a b) (f g : EmailFields) :
    tags (emailTemplate r h a f).meant = tags (emailTemplate r h b g).meant := by
  obtain ⟨accountId,alertId,description,details,rfl⟩ := alike
  apply meant_tags
  · simp only [emailTemplate]
  · simp only [emailTemplate,List.map_cons,List.map_nil]

theorem markup_isolated (r : AlertTemplateRenderer) (h : TemplateHost) (a b : Alert) (first second : EmailAlert)
    (alike : Alike a b) (firstSent : r.renderEmail h a = .ok first) (secondSent : r.renderEmail h b = .ok second) :
    Isolated r h a b first second ↔ InertTexts h a ∧ InertTexts h b := by
  unfold Isolated
  rw [shown_inert firstSent,shown_inert secondSent]
  constructor
  · intro given
    exact given.2
  · intro inert
    obtain ⟨f,firstTaken,_⟩ := renderEmail_body firstSent
    obtain ⟨g,secondTaken,_⟩ := renderEmail_body secondSent
    have firstShown := (shown_inert firstSent).mpr inert.1 f firstTaken
    have secondShown := (shown_inert secondSent).mpr inert.2 g secondTaken
    refine ⟨?_,inert⟩
    rw [firstShown,secondShown]
    exact alike_tags alike f g

-- A description that is markup adds its tags to those of the template.
theorem description_injected (r : AlertTemplateRenderer) (h : TemplateHost) (alert : Alert) (fields : EmailFields) (hostile : Markup)
    (quiet : ∀ field ∈ (r.emailTemplate h alert fields).fields, inert field.1 = true) :
    (tags (Html.read .data (r.emailTemplate h alert {fields with description := String.ofList hostile.val}).source)).length =
      (tags (r.emailTemplate h alert fields).meant).length + (markupTags hostile).length := by
  let before := (r.emailTemplate h alert fields).fields.take 17
  let after := (r.emailTemplate h alert fields).fields.drop 18
  have plain : r.emailTemplate h alert fields =
      ⟨documentHead alert.severity,before ++ (fields.description.toList,actionBox alert.severity) :: after⟩ := by
    simp [before,after,emailTemplate]
  have changed : r.emailTemplate h alert {fields with description := String.ofList hostile.val} =
      ⟨documentHead alert.severity,before ++ (hostile.val,actionBox alert.severity) :: after⟩ := by
    simp [before,after,emailTemplate]
  have quietBefore : ∀ field ∈ before, inert field.1 = true := fun field member => quiet field (List.mem_of_mem_take member)
  have quietAfter : ∀ field ∈ after, inert field.1 = true := fun field member => quiet field (List.mem_of_mem_drop member)
  have tokens := injected (documentHead alert.severity) (actionBox alert.severity) hostile before after quietBefore quietAfter
  rw [changed,tokens,plain]
  unfold Template.meant
  rw [tags_append,fields_tags]
  change _ = (markupTags (documentHead alert.severity) ++ _).length + _
  simp only [List.length_append,List.map_append,List.map_cons,List.flatMap_append,List.flatMap_cons]
  omega

def exampleHost : TemplateHost where
  format v := match v with
    | .str text => .ok text
    | _ => .error "Exceeds the limit (4300 digits) for integer string conversion"
  fixed _ _ := .ok "0.9500"
  isoformat _ := "1970-01-01T00:00:00+00:00"
  fixed_plain := by
    intro n v text came
    cases came
    decide
  isoformat_plain := by
    intro time
    decide

def describedAlert (description : String) : Alert where
  alertId := "alert-1"
  transactionId := .str "tx-1"
  accountId := .str "acc-1"
  alertType := .ruleBased
  severity := .high
  status := .open
  riskScore := .float (.finite (19 / 20))
  ruleId := .none
  description := description
  details := .dict []
  enrichment := .empty
  channels := ["email"]
  assignedTo := none
  resolvedAt := none
  resolutionNotes := none
  createdAt := 0
  updatedAt := 0

def describedFields (description : String) : EmailFields :=
  ⟨"0.9500","acc-1","N/A","USD","N/A","N/A","N/A",description,"alert-1"⟩

theorem described_taken (description : String) :
    emailFields exampleHost (describedAlert description) = .ok (describedFields description) := rfl

theorem described_sent (description : String) :
    ∃ email, (init "en_US").renderEmail exampleHost (describedAlert description) = .ok email := ⟨_,rfl⟩

theorem described_alike (a b : String) : Alike (describedAlert a) (describedAlert b) := ⟨_,_,_,_,rfl⟩

theorem described_inert (description : String) (plain : inert description.toList = true) :
    InertTexts exampleHost (describedAlert description) := by
  intro fields taken
  have same : describedFields description = fields := Except.ok.inj ((described_taken description).symm.trans taken)
  rw [← same]
  simp only [describedFields,EmailFields.untrusted,List.forall_mem_cons,plain]
  decide

theorem scored_isolated : ∃ first second,
    (init "en_US").renderEmail exampleHost (describedAlert "score > 0.9") = .ok first ∧
    (init "en_US").renderEmail exampleHost (describedAlert "amount < 10") = .ok second ∧
    Alike (describedAlert "score > 0.9") (describedAlert "amount < 10") ∧
    (Isolated (init "en_US") exampleHost (describedAlert "score > 0.9") (describedAlert "amount < 10") first second ↔
      InertTexts exampleHost (describedAlert "score > 0.9") ∧ InertTexts exampleHost (describedAlert "amount < 10")) ∧
    InertTexts exampleHost (describedAlert "score > 0.9") ∧ InertTexts exampleHost (describedAlert "amount < 10") := by
  obtain ⟨first,firstSent⟩ := described_sent "score > 0.9"
  obtain ⟨second,secondSent⟩ := described_sent "amount < 10"
  have alike := described_alike "score > 0.9" "amount < 10"
  exact ⟨first,second,firstSent,secondSent,alike,markup_isolated _ _ _ _ _ _ alike firstSent secondSent,
    described_inert _ (by decide),described_inert _ (by decide)⟩

def imageTag : Markup := ⟨['<','i','m','g',' ','s','r','c','=','x','>'],by decide⟩

theorem image_changes_tags : ∃ first second,
    (init "en_US").renderEmail exampleHost (describedAlert "x") = .ok first ∧
    (init "en_US").renderEmail exampleHost (describedAlert "<img src=x>") = .ok second ∧
    Alike (describedAlert "x") (describedAlert "<img src=x>") ∧
    tags (bodyTokens first) ≠ tags (bodyTokens second) := by
  obtain ⟨first,firstSent⟩ := described_sent "x"
  obtain ⟨second,secondSent⟩ := described_sent "<img src=x>"
  refine ⟨first,second,firstSent,secondSent,described_alike _ _,?_⟩
  have calm := described_inert "x" (by decide)
  have shown := (shown_inert firstSent).mpr calm _ (described_taken "x")
  obtain ⟨fields,taken,body⟩ := renderEmail_body secondSent
  have same : describedFields "<img src=x>" = fields := Except.ok.inj ((described_taken "<img src=x>").symm.trans taken)
  have tokens : bodyTokens second = Html.read .data ((init "en_US").emailTemplate exampleHost (describedAlert "<img src=x>")
      (describedFields "<img src=x>")).source := by
    simp [bodyTokens,body,← same]
  have quiet := (template_inert (init "en_US") exampleHost (describedAlert "x") (describedFields "x") rfl).mpr
    (calm _ (described_taken "x"))
  have longer : (tags (Html.read .data ((init "en_US").emailTemplate exampleHost (describedAlert "<img src=x>")
      (describedFields "<img src=x>")).source)).length = _ :=
    description_injected (init "en_US") exampleHost (describedAlert "x") (describedFields "x") imageTag quiet
  have image : (markupTags imageTag).length = 1 := by decide
  intro equal
  rw [shown,tokens] at equal
  rw [← equal,image] at longer
  omega

end AlertTemplateRenderer

end RiskPulse
