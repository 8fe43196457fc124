import RiskPulse.NotificationService
import RiskPulse.Library.Html

namespace RiskPulse

namespace AlertTemplates
open OrderedDict Html

def enUS : List (String × String) := [
  ("alert_title","Fraud Alert"),
  ("severity_label","Severity"),
  ("risk_score_label","Risk Score"),
  ("account_label","Account"),
  ("transaction_label","Transaction"),
  ("amount_label","Amount"),
  ("merchant_label","Merchant"),
  ("channel_label","Channel"),
  ("timestamp_label","Timestamp"),
  ("description_label","Description"),
  ("action_required","Action Required"),
  ("investigate_prompt","Please investigate this alert immediately."),
  ("low_severity_msg","This is an informational alert for review."),
  ("medium_severity_msg","This alert requires attention during business hours."),
  ("high_severity_msg","This alert requires prompt investigation."),
  ("critical_severity_msg","URGENT: Immediate action required."),
  ("rule_based_title","Rule-Based Fraud Alert"),
  ("anomaly_title","Anomaly Detection Alert"),
  ("ml_score_title","ML Model Fraud Alert"),
  ("ensemble_title","Ensemble Fraud Alert")]

def esES : List (String × String) := [
  ("alert_title","Alerta de Fraude"),
  ("severity_label","Severidad"),
  ("risk_score_label","Puntuación de Riesgo"),
  ("account_label","Cuenta"),
  ("transaction_label","Transacción"),
  ("amount_label","Monto"),
  ("merchant_label","Comercio"),
  ("channel_label","Canal"),
  ("timestamp_label","Marca de Tiempo"),
  ("description_label","Descripción"),
  ("action_required","Acción Requerida"),
  ("investigate_prompt","Por favor investigue esta alerta inmediatamente."),
  ("low_severity_msg","Esta es una alerta informativa para revisión."),
  ("medium_severity_msg","Esta alerta requiere atención en horario laboral."),
  ("high_severity_msg","Esta alerta requiere investigación inmediata."),
  ("critical_severity_msg","URGENTE: Se requiere acción inmediata."),
  ("rule_based_title","Alerta de Fraude Basada en Reglas"),
  ("anomaly_title","Alerta de Detección de Anomalías"),
  ("ml_score_title","Alerta de Modelo ML"),
  ("ensemble_title","Alerta de Ensemble")]

def frFR : List (String × String) := [
  ("alert_title","Alerte de Fraude"),
  ("severity_label","Sévérité"),
  ("risk_score_label","Score de Risque"),
  ("account_label","Compte"),
  ("transaction_label","Transaction"),
  ("amount_label","Montant"),
  ("merchant_label","Commerçant"),
  ("channel_label","Canal"),
  ("timestamp_label","Horodatage"),
  ("description_label","Description"),
  ("action_required","Action Requise"),
  ("investigate_prompt","Veuillez enquêter sur cette alerte immédiatement."),
  ("low_severity_msg","Ceci est une alerte informative à examiner."),
  ("medium_severity_msg","Cette alerte nécessite une attention pendant les heures ouvrables."),
  ("high_severity_msg","Cette alerte nécessite une enquête rapide."),
  ("critical_severity_msg","URGENT: Action immédiate requise."),
  ("rule_based_title","Alerte Fraude Basée sur les Règles"),
  ("anomaly_title","Alerte Détection d'Anomalies"),
  ("ml_score_title","Alerte Modèle ML"),
  ("ensemble_title","Alerte Ensemble")]

def deDE : List (String × String) := [
  ("alert_title","Betrugswarnung"),
  ("severity_label","Schweregrad"),
  ("risk_score_label","Risikobewertung"),
  ("account_label","Konto"),
  ("transaction_label","Transaktion"),
  ("amount_label","Betrag"),
  ("merchant_label","Händler"),
  ("channel_label","Kanal"),
  ("timestamp_label","Zeitstempel"),
  ("description_label","Beschreibung"),
  ("action_required","Handlung Erforderlich"),
  ("investigate_prompt","Bitte untersuchen Sie diese Warnung sofort."),
  ("low_severity_msg","Dies ist eine informative Warnung zur Überprüfung."),
  ("medium_severity_msg","Diese Warnung erfordert Aufmerksamkeit während der Geschäftszeiten."),
  ("high_severity_msg","Diese Warnung erfordert eine sofortige Untersuchung."),
  ("critical_severity_msg","DRINGEND: Sofortige Maßnahmen erforderlich."),
  ("rule_based_title","Regelbasierte Betrugswarnung"),
  ("anomaly_title","Anomalieerkennung Warnung"),
  ("ml_score_title","ML-Modell Betrugswarnung"),
  ("ensemble_title","Ensemble Betrugswarnung")]

def ptBR : List (String × String) := [
  ("alert_title","Alerta de Fraude"),
  ("severity_label","Severidade"),
  ("risk_score_label","Score de Risco"),
  ("account_label","Conta"),
  ("transaction_label","Transação"),
  ("amount_label","Valor"),
  ("merchant_label","Comerciante"),
  ("channel_label","Canal"),
  ("timestamp_label","Data/Hora"),
  ("description_label","Descrição"),
  ("action_required","Ação Necessária"),
  ("investigate_prompt","Por favor, investigue este alerta imediatamente."),
  ("low_severity_msg","Este é um alerta informativo para revisão."),
  ("medium_severity_msg","Este alerta requer atenção durante o horário comercial."),
  ("high_severity_msg","Este alerta requer investigação imediata."),
  ("critical_severity_msg","URGENTE: Ação imediata necessária."),
  ("rule_based_title","Alerta de Fraude Baseado em Regras"),
  ("anomaly_title","Alerta de Detecção de Anomalias"),
  ("ml_score_title","Alerta de Modelo ML"),
  ("ensemble_title","Alerta de Ensemble")]

-- en_GB falls back to en_US
def localeStrings : List (String × List (String × String)) := [
  ("en_US",enUS),
  ("es_ES",esES),
  ("fr_FR",frFR),
  ("de_DE",deDE),
  ("pt_BR",ptBR),
  ("en_GB",enUS)]

def getString (locale key : String) : String :=
  let strings := (lookupEntry locale localeStrings).getD enUS
  (lookupEntry key strings).getD ((lookupEntry key enUS).getD key)

end AlertTemplates

-- What the templates take of Python: the text of a value, the fixed-point text of a number,
-- which is digits with a sign and a point, nan or inf, and the ISO text of a time.
structure TemplateHost where
  format : Value → Except String String
  fixed : Nat → Value → Except String String
  isoformat : Rat → String
  fixed_plain : fixed n v = .ok text → '<' ∉ text.toList
  isoformat_plain : '<' ∉ (isoformat time).toList

-- A rendered alert with the fields that the notifications do not read.
structure EmailAlert extends RenderedAlert where
  alertId : String
  channel : String
  metadata : List (String × Value)
  priority : String

-- The renderer has one of the locales there are strings for.
structure AlertTemplateRenderer where
  locale : String
  supported : (OrderedDict.lookupEntry locale AlertTemplates.localeStrings).isSome = true

namespace AlertTemplateRenderer
open AlertTemplates Html

def init (locale : String) : AlertTemplateRenderer :=
  if supported : (OrderedDict.lookupEntry locale localeStrings).isSome = true then ⟨locale,supported⟩ else ⟨"en_US",rfl⟩

def setLocale (r : AlertTemplateRenderer) (value : String) : AlertTemplateRenderer :=
  if supported : (OrderedDict.lookupEntry value localeStrings).isSome = true then ⟨value,supported⟩ else r

def s (r : AlertTemplateRenderer) (key : String) : String := getString r.locale key

def typeKey : AlertType → String
  | .ruleBased => "rule_based_title"
  | .anomaly => "anomaly_title"
  | .mlScore => "ml_score_title"
  | .ensemble => "ensemble_title"

def getTypeTitle (r : AlertTemplateRenderer) (alertType : AlertType) : String := r.s (typeKey alertType)

def messageKey : AlertSeverity → String
  | .low => "low_severity_msg"
  | .medium => "medium_severity_msg"
  | .high => "high_severity_msg"
  | .critical => "critical_severity_msg"

def getSeverityMessage (r : AlertTemplateRenderer) (severity : AlertSeverity) : String := r.s (messageKey severity)

def getPriority : AlertSeverity → String
  | .low => "low"
  | .medium => "normal"
  | .high => "high"
  | .critical => "urgent"

def severityPrefix : AlertSeverity → String
  | .low => "[LOW]"
  | .medium => "[MEDIUM]"
  | .high => "[HIGH]"
  | .critical => "[CRITICAL]"

def getEmailSubject (r : AlertTemplateRenderer) (h : TemplateHost) (alert : Alert) : Except String String := do
  let account ← h.format alert.accountId
  pure (severityPrefix alert.severity ++ " " ++ r.getTypeTitle alert.alertType ++ " - Account " ++ account)

def severityColor : AlertSeverity → String
  | .low => "#4CAF50"
  | .medium => "#FF9800"
  | .high => "#F44336"
  | .critical => "#9C27B0"

-- The literal parts of the HTML body, each up to the next value written into it.
set_option maxRecDepth 2000 in
def documentHead (severity : AlertSeverity) : Markup := ⟨("<!DOCTYPE html>
<html>
<head><meta charset=\"utf-8\"></head>
<body style=\"font-family: Arial, sans-serif; max-width: 600px; margin: 0 auto;\">
  <div style=\"background-color: " ++ severityColor severity ++ "; color: white; padding: 16px; border-radius: 4px 4px 0 0;\">
    <h2 style=\"margin: 0;\">").toList,by cases severity <;> exact whole_literals _ _ _ (by decide +kernel)⟩

def dash : Markup := ⟨" - ".toList,whole_literal _ (by decide +kernel)⟩

def typeParagraph : Markup := ⟨"</h2>
    <p style=\"margin: 4px 0 0 0; opacity: 0.9;\">".toList,whole_literal _ (by decide +kernel)⟩

set_option maxRecDepth 2000 in
def tableHead : Markup := ⟨"</p>
  </div>
  <div style=\"border: 1px solid #ddd; border-top: none; padding: 16px; border-radius: 0 0 4px 4px;\">
    <table style=\"width: 100%; border-collapse: collapse;\">
      <tr>
        <td style=\"padding: 8px; border-bottom: 1px solid #eee; font-weight: bold;\">".toList,
  whole_literal _ (by decide +kernel)⟩

def valueCell : Markup := ⟨"</td>
        <td style=\"padding: 8px; border-bottom: 1px solid #eee;\">".toList,whole_literal _ (by decide +kernel)⟩

set_option maxRecDepth 2000 in
def nextRow : Markup := ⟨"</td>
      </tr>
      <tr>
        <td style=\"padding: 8px; border-bottom: 1px solid #eee; font-weight: bold;\">".toList,
  whole_literal _ (by decide +kernel)⟩

def blankBetween : Markup := ⟨" ".toList,whole_literal _ (by decide +kernel)⟩

set_option maxRecDepth 2000 in
def descriptionBox : Markup := ⟨"</td>
      </tr>
    </table>
    <div style=\"margin-top: 16px; padding: 12px; background-color: #f5f5f5; border-radius: 4px;\">
      <strong>".toList,whole_literal _ (by decide +kernel)⟩

def strongEnd : Markup := ⟨":</strong><br>
      ".toList,whole_literal _ (by decide +kernel)⟩

def actionBox (severity : AlertSeverity) : Markup := ⟨("
    </div>
    <div style=\"margin-top: 16px; padding: 12px; background-color: #fff3e0; border-left: 4px solid " ++
      severityColor severity ++ "; border-radius: 4px;\">
      <strong>").toList,by cases severity <;> exact whole_literals _ _ _ (by decide +kernel)⟩

def footer : Markup := ⟨"
    </div>
    <p style=\"margin-top: 16px; font-size: 12px; color: #999;\">
      Alert ID: ".toList,whole_literal _ (by decide +kernel)⟩

def generated : Markup := ⟨" | Generated: ".toList,whole_literal _ (by decide +kernel)⟩

def documentEnd : Markup := ⟨"
    </p>
  </div>
</body>
</html>".toList,whole_literal _ (by decide +kernel)⟩

-- What the HTML body shows of an alert.
structure EmailFields where
  score : String
  accountId : String
  amount : String
  currency : String
  merchant : String
  channel : String
  timestamp : String
  description : String
  alertId : String

-- The texts that come from outside.
def EmailFields.untrusted (f : EmailFields) : List String :=
  [f.accountId,f.amount,f.currency,f.merchant,f.channel,f.timestamp,f.description,f.alertId]

def emailTemplate (r : AlertTemplateRenderer) (h : TemplateHost) (alert : Alert) (f : EmailFields) : Template where
  head := documentHead alert.severity
  fields := [
    ((r.s "alert_title").toList,dash),
    (alert.severity.value.toUpper.toList,typeParagraph),
    ((r.getTypeTitle alert.alertType).toList,tableHead),
    ((r.s "risk_score_label").toList,valueCell),
    (f.score.toList,nextRow),
    ((r.s "account_label").toList,valueCell),
    (f.accountId.toList,nextRow),
    ((r.s "amount_label").toList,valueCell),
    (f.amount.toList,blankBetween),
    (f.currency.toList,nextRow),
    ((r.s "merchant_label").toList,valueCell),
    (f.merchant.toList,nextRow),
    ((r.s "channel_label").toList,valueCell),
    (f.channel.toList,nextRow),
    ((r.s "timestamp_label").toList,valueCell),
    (f.timestamp.toList,descriptionBox),
    ((r.s "description_label").toList,strongEnd),
    (f.description.toList,actionBox alert.severity),
    ((r.s "action_required").toList,strongEnd),
    ((r.getSeverityMessage alert.severity).toList,footer),
    (f.alertId.toList,generated),
    ((h.isoformat alert.createdAt).toList,documentEnd)]

def emailFields (h : TemplateHost) (alert : Alert) : Except String EmailFields := do
  let txnDetails ← alert.details.attributeGet "transaction" (.dict [])
  let amount ← txnDetails.attributeGet "amount" (.str "N/A")
  let currency ← txnDetails.attributeGet "currency" (.str "USD")
  let merchant ← txnDetails.attributeGet "merchant" (.str "N/A")
  let channel ← txnDetails.attributeGet "channel" (.str "N/A")
  let timestamp ← txnDetails.attributeGet "timestamp" (.str "N/A")
  pure {
    score := ← h.fixed 4 alert.riskScore
    accountId := ← h.format alert.accountId
    amount := ← h.format amount
    currency := ← h.format currency
    merchant := ← h.format merchant
    channel := ← h.format channel
    timestamp := ← h.format timestamp
    description := alert.description
    alertId := alert.alertId}

def renderEmailHtml (r : AlertTemplateRenderer) (h : TemplateHost) (alert : Alert) : Except String String := do
  let fields ← emailFields h alert
  pure (String.ofList (r.emailTemplate h alert fields).source)

def detailLines (r : AlertTemplateRenderer) (h : TemplateHost) (txnDetails : Value) : Except String (List String) := do
  if txnDetails.truthy then
    let amount ← h.format (← txnDetails.attributeGet "amount" (.str "N/A"))
    let currency ← h.format (← txnDetails.attributeGet "currency" (.str "USD"))
    let merchant ← h.format (← txnDetails.attributeGet "merchant" (.str "N/A"))
    let channel ← h.format (← txnDetails.attributeGet "channel" (.str "N/A"))
    let timestamp ← h.format (← txnDetails.attributeGet "timestamp" (.str "N/A"))
    pure [
      r.s "amount_label" ++ ": " ++ amount ++ " " ++ currency,
      r.s "merchant_label" ++ ": " ++ merchant,
      r.s "channel_label" ++ ": " ++ channel,
      r.s "timestamp_label" ++ ": " ++ timestamp,
      ""]
  else pure []

def renderEmail (r : AlertTemplateRenderer) (h : TemplateHost) (alert : Alert) : Except String EmailAlert := do
  let subject ← r.getEmailSubject h alert
  let severityMsg := r.getSeverityMessage alert.severity
  let score ← h.fixed 4 alert.riskScore
  let account ← h.format alert.accountId
  let transaction ← h.format alert.transactionId
  let lines := [
    r.s "alert_title" ++ " - " ++ alert.alertId,
    String.ofList (List.replicate 60 '='),
    "",
    r.s "severity_label" ++ ": " ++ alert.severity.value.toUpper,
    r.s "risk_score_label" ++ ": " ++ score,
    r.s "account_label" ++ ": " ++ account,
    r.s "transaction_label" ++ ": " ++ transaction,
    ""]
  let txnDetails ← alert.details.attributeGet "transaction" (.dict [])
  let details ← r.detailLines h txnDetails
  let ending := [
    r.s "description_label" ++ ": " ++ alert.description,
    "",
    "--- " ++ r.s "action_required" ++ " ---",
    severityMsg]
  let htmlBody ← r.renderEmailHtml h alert
  pure {
    alertId := alert.alertId
    channel := "email"
    subject := subject
    body := "\n".intercalate (lines ++ details ++ ending)
    htmlBody := some htmlBody
    priority := getPriority alert.severity
    metadata := [("severity",.str alert.severity.value),("account_id",alert.accountId)]}

end AlertTemplateRenderer

end RiskPulse
