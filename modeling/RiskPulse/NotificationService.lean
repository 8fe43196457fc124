import RiskPulse.AlertManager
import RiskPulse.Library.SlidingWindow
import RiskPulse.Library.Text

namespace RiskPulse
open Effect

inductive NotificationChannel where
  | email
  | webhook
  | sms
  | inApp
  deriving DecidableEq

inductive DeliveryStatus where
  | pending
  | sent
  | delivered
  | failed
  | read
  | bounced
  | rateLimited
  deriving DecidableEq

structure NotificationRecord where
  notificationId : String
  alertId : String
  channel : NotificationChannel
  recipient : String
  status : DeliveryStatus
  createdAt : Rat
  sentAt : Option Rat
  deliveredAt : Option Rat
  readAt : Option Rat
  failedAt : Option Rat
  failureReason : Option String
  metadata : Record

structure NotificationPreference where
  userId : String
  emailEnabled : Bool
  smsEnabled : Bool
  webhookEnabled : Bool
  inAppEnabled : Bool
  quietHoursStart : Option Int
  quietHoursEnd : Option Int
  minSeverityEmail : AlertSeverity
  minSeveritySms : AlertSeverity
  minSeverityWebhook : AlertSeverity
  rateLimitPerHour : Int

structure RenderedAlert where
  subject : String
  body : String
  htmlBody : Option String

-- The content of the preferences, and of their defaults what they say of the rate.
structure PreferencesManager where
  preferences : OrderedDict String NotificationPreference
  defaultRate : Option Int

namespace PreferencesManager

def getPreference (p : PreferencesManager) (userId : String) : NotificationPreference :=
  match p.preferences.get? userId with
  | some pref => pref
  | none => ⟨userId,true,true,true,true,none,none,.low,.high,.medium,p.defaultRate.getD 10⟩

def severityOrder : AlertSeverity → Nat
  | .low => 0
  | .medium => 1
  | .high => 2
  | .critical => 3

def isChannelEnabled (p : PreferencesManager) (userId : String) (channel : NotificationChannel) (severity : AlertSeverity) : Bool :=
  let pref := p.getPreference userId
  match channel with
  | .email => pref.emailEnabled && decide (severityOrder pref.minSeverityEmail ≤ severityOrder severity)
  | .sms => pref.smsEnabled && decide (severityOrder pref.minSeveritySms ≤ severityOrder severity)
  | .webhook => pref.webhookEnabled && decide (severityOrder pref.minSeverityWebhook ≤ severityOrder severity)
  | .inApp => pref.inAppEnabled

def isInQuietHours (p : PreferencesManager) (currentHour : Int) (userId : String) : Bool :=
  let pref := p.getPreference userId
  match pref.quietHoursStart,pref.quietHoursEnd with
  | some start,some «end» =>
    if start ≤ «end» then decide (start ≤ currentHour ∧ currentHour < «end»)
    else decide (start ≤ currentHour ∨ currentHour < «end»)
  | _,_ => false

end PreferencesManager

-- Timestamps of the deliveries to each recipient.
abbrev DeliveryBuckets := OrderedDict String (List Rat)

def NotificationRateLimiter.isAllowed (defaultLimit : Int) (now : Rat) (recipient : String) (limit : Option Int)
    (buckets : DeliveryBuckets) : Bool × DeliveryBuckets :=
  let maxAllowed := limit.getD defaultLimit
  let bucket := SlidingWindow.recent 3600 now (buckets.getD recipient [])
  let cleaned := buckets.set recipient bucket
  if maxAllowed ≤ bucket.length then (false,cleaned) else (true,cleaned.set recipient (bucket ++ [now]))

-- The records that were made, in order, and what an identifier stands for: a record is
-- referred to by its position.
structure DeliveryTracker where
  objects : List NotificationRecord
  records : OrderedDict String Nat
  byAlert : OrderedDict String (List String)

namespace DeliveryTracker

def createRecord (t : DeliveryTracker) (record : NotificationRecord) : DeliveryTracker :=
  ⟨t.objects ++ [record],t.records.set record.notificationId t.objects.length,
    t.byAlert.set record.alertId (t.byAlert.getD record.alertId [] ++ [record.notificationId])⟩

def change (t : DeliveryTracker) (reference : Nat) (f : NotificationRecord → NotificationRecord) : DeliveryTracker :=
  {t with objects := t.objects.modify reference f}

def mark (t : DeliveryTracker) (notificationId : String) (f : NotificationRecord → NotificationRecord) : DeliveryTracker :=
  match t.records.get? notificationId with
  | some reference => t.change reference f
  | none => t

end DeliveryTracker

namespace NotificationRecord

def markSent (now : Rat) (r : NotificationRecord) : NotificationRecord := {r with status := .sent,sentAt := some now}

def markDelivered (now : Rat) (r : NotificationRecord) : NotificationRecord := {r with status := .delivered,deliveredAt := some now}

def markFailed (now : Rat) (reason : String) (r : NotificationRecord) : NotificationRecord :=
  {r with status := .failed,failedAt := some now,failureReason := some reason}

def markRead (now : Rat) (r : NotificationRecord) : NotificationRecord := {r with status := .read,readAt := some now}

def markRateLimited (r : NotificationRecord) : NotificationRecord := {r with status := .rateLimited}

end NotificationRecord

inductive ProviderRequest where
  | sendEmail (recipient subject bodyHtml bodyText : String)
  | sendSms (phoneNumber message : String)
  | sendWebhook (url : String) (payload : Value) (headers : Option (List (String × String)))
  | pushNotification (userId : String) (payload : Value)

-- What one delivery takes from outside: the identifier, the readings of the clocks, and
-- what the provider makes of a call to it.
structure DeliveryMoment where
  uuid4 : String
  createdAt : Rat
  currentHour : Int
  time : Rat
  isoNow : String
  result : Except String Record
  markedAt : Rat

structure NotificationDelivery where
  alert : Alert
  rendered : RenderedAlert
  recipient : String
  channel : NotificationChannel
  overrideRateLimit : Bool
  preferences : PreferencesManager
  moment : DeliveryMoment

structure ProviderCall where
  recipient : String
  channel : NotificationChannel
  request : ProviderRequest
  overrideRateLimit : Bool
  time : Rat

structure ServiceState where
  buckets : DeliveryBuckets
  tracker : DeliveryTracker
  calls : List ProviderCall

def ServiceState.start : ServiceState := ⟨.empty,⟨[],.empty,.empty⟩,[]⟩

structure NotifyCall where
  alert : Alert
  recipients : List String
  channels : Option (List NotificationChannel)
  overrideRateLimit : Bool
  preferences : PreferencesManager
  moments : Nat → DeliveryMoment

-- str, repr and the format .2f are Python's. Rendering is taken as given, and so is which
-- providers there are.
structure NotificationService where
  str : Value → String
  repr : Value → String
  fixed2 : Value → Except String String
  render : Alert → String → RenderedAlert
  dashboardBaseUrl : String
  emailProvider : Bool
  smsProvider : Bool
  websocketProvider : Bool
  defaultLimit : Int
  config : Record

def AlertSeverity.upper : AlertSeverity → String
  | .low => "LOW"
  | .medium => "MEDIUM"
  | .high => "HIGH"
  | .critical => "CRITICAL"

namespace NotificationService
variable (c : NotificationService)

def alertDashboardUrl (alertId : String) : String :=
  String.ofList (c.dashboardBaseUrl.toList.rdropWhile fun char => char = '/') ++ "/alerts/" ++ alertId

def severityEmoji : AlertSeverity → String
  | .low => ":white_circle:"
  | .medium => ":large_yellow_circle:"
  | .high => ":large_orange_circle:"
  | .critical => ":red_circle:"

def mrkdwn (text : String) : Value := .dict [("type",.str "mrkdwn"),("text",.str text)]

def plainText (text : String) : Value := .dict [("type",.str "plain_text"),("text",.str text)]

def formatSlack (alert : Alert) (rendered : RenderedAlert) : Except String Value := do
  let score ← c.fixed2 alert.riskScore
  pure (.dict [("blocks",.list [
    .dict [("type",.str "header"),("text",plainText (severityEmoji alert.severity ++ " " ++ rendered.subject))],
    .dict [("type",.str "section"),("fields",.list [
      mrkdwn ("*Severity:* " ++ alert.severity.upper),
      mrkdwn ("*Risk Score:* " ++ score),
      mrkdwn ("*Account:* " ++ c.str alert.accountId),
      mrkdwn ("*Transaction:* " ++ c.str alert.transactionId)])],
    .dict [("type",.str "section"),("text",mrkdwn rendered.body)],
    .dict [("type",.str "actions"),("elements",.list [
      .dict [("type",.str "button"),("text",plainText "Investigate"),("style",.str "danger"),("value",.str alert.alertId),
        ("action_id",.str "investigate_alert")],
      .dict [("type",.str "button"),("text",plainText "Acknowledge"),("value",.str alert.alertId),
        ("action_id",.str "acknowledge_alert")]])]])])

def severityColor : AlertSeverity → String
  | .low => "good"
  | .medium => "warning"
  | .high | .critical => "attention"

def fact (title : String) (value : Value) : Value := .dict [("title",.str title),("value",value)]

def formatTeams (alert : Alert) (rendered : RenderedAlert) : Except String Value := do
  let score ← c.fixed2 alert.riskScore
  pure (.dict [("type",.str "message"),("attachments",.list [.dict [
    ("contentType",.str "application/vnd.microsoft.card.adaptive"),
    ("content",.dict [
      ("$schema",.str "http://adaptivecards.io/schemas/adaptive-card.json"),
      ("type",.str "AdaptiveCard"),
      ("version",.str "1.4"),
      ("body",.list [
        .dict [("type",.str "TextBlock"),("text",.str rendered.subject),("weight",.str "bolder"),("size",.str "large"),
          ("color",.str (severityColor alert.severity))],
        .dict [("type",.str "FactSet"),("facts",.list [
          fact "Severity" (.str alert.severity.upper),
          fact "Risk Score" (.str score),
          fact "Account" alert.accountId,
          fact "Transaction" alert.transactionId])],
        .dict [("type",.str "TextBlock"),("text",.str rendered.body),("wrap",.bool true)]]),
      ("actions",.list [.dict [("type",.str "Action.OpenUrl"),("title",.str "Investigate"),
        ("url",.str (c.alertDashboardUrl alert.alertId))]])])]])])

def pagerdutySeverity : AlertSeverity → String
  | .low => "info"
  | .medium => "warning"
  | .high => "error"
  | .critical => "critical"

def formatPagerduty (alert : Alert) (rendered : RenderedAlert) (routingKey : String) : Value :=
  .dict [
    ("routing_key",.str routingKey),
    ("event_action",.str "trigger"),
    ("dedup_key",.str ("riskpulse-" ++ alert.alertId)),
    ("payload",.dict [
      ("summary",.str rendered.subject),
      ("severity",.str (pagerdutySeverity alert.severity)),
      ("source",.str "riskpulse-fraud-detection"),
      ("component",.str "alert-engine"),
      ("group",.str ("account-" ++ c.str alert.accountId)),
      ("class",.str alert.alertType.value),
      ("custom_details",.dict [
        ("alert_id",.str alert.alertId),
        ("transaction_id",alert.transactionId),
        ("account_id",alert.accountId),
        ("risk_score",alert.riskScore),
        ("description",.str rendered.body)])]),
    ("links",.list [.dict [("href",.str (c.alertDashboardUrl alert.alertId)),("text",.str "View in RiskPulse")]])]

-- str(value or "").strip()
def stripped (value : Value) : String :=
  if value.truthy then String.ofList (Text.strip Text.isSpace (c.str value).toList) else ""

def emailRequest (d : NotificationDelivery) : Except String ProviderRequest :=
  if c.emailProvider then
    .ok (.sendEmail d.recipient d.rendered.subject
      (match d.rendered.htmlBody with
      | some html => if html = "" then d.rendered.body else html
      | none => d.rendered.body) d.rendered.body)
  else .error "Email provider not configured"

def smsRequest (d : NotificationDelivery) : Except String ProviderRequest :=
  if c.smsProvider then do
    let score ← c.fixed2 d.alert.riskScore
    pure (.sendSms d.recipient ("[RiskPulse " ++ d.alert.severity.upper ++ "] Alert " ++
      String.ofList (d.alert.alertId.toList.take 8) ++ ": " ++ d.rendered.subject ++ " Score: " ++ score))
  else .error "SMS provider not configured"

def webhookHeaders (rawHeaders : Value) : Option (List (String × String)) :=
  match rawHeaders with
  | .dict entries => some ((entries.filter fun entry => entry.2.truthy).map fun entry => (entry.1,c.str entry.2))
  | _ => none

def webhookRequest (d : NotificationDelivery) : Except String ProviderRequest := do
  let webhookConfig ← (c.config.getD "webhooks" (.dict [])).attributeGet d.recipient .none
  if webhookConfig.truthy then do
    let target ← webhookConfig.attributeGet "type" (.str "custom")
    if target ∉ [.str "slack",.str "teams",.str "pagerduty",.str "custom"] then
      throw (c.repr target ++ " is not a valid WebhookTarget")
    let url := c.stripped (← webhookConfig.attributeGet "url" .none)
    if url = "" then throw ("Webhook URL not configured for recipient: " ++ d.recipient)
    let payload ←
      if target = .str "slack" then c.formatSlack d.alert d.rendered
      else if target = .str "teams" then c.formatTeams d.alert d.rendered
      else if target = .str "pagerduty" then do
        let routingKey := c.stripped (← webhookConfig.attributeGet "routing_key" .none)
        if routingKey = "" then throw ("PagerDuty routing key not configured for recipient: " ++ d.recipient)
        pure (c.formatPagerduty d.alert d.rendered routingKey)
      else pure (.dict [
        ("alert_id",.str d.alert.alertId),
        ("severity",.str d.alert.severity.value),
        ("title",.str d.rendered.subject),
        ("body",.str d.rendered.body),
        ("risk_score",d.alert.riskScore),
        ("timestamp",.str d.moment.isoNow)])
    let rawHeaders ← webhookConfig.attributeGet "headers" .none
    pure (.sendWebhook url payload (c.webhookHeaders rawHeaders))
  else throw ("No webhook configuration for recipient: " ++ d.recipient)

def inAppRequest (d : NotificationDelivery) : Except String ProviderRequest :=
  if c.websocketProvider then
    .ok (.pushNotification d.recipient (.dict [
      ("notification_id",.str d.moment.uuid4),
      ("alert_id",.str d.alert.alertId),
      ("title",.str d.rendered.subject),
      ("body",.str d.rendered.body),
      ("severity",.str d.alert.severity.value),
      ("risk_score",d.alert.riskScore),
      ("timestamp",.str d.moment.isoNow),
      ("actions",.list [.str "investigate",.str "acknowledge",.str "dismiss"])]))
  else .error "WebSocket provider not configured"

def provide (d : NotificationDelivery) (request : ProviderRequest) : Effect ServiceState Record := fun s =>
  (d.moment.result,{s with calls := s.calls ++ [⟨d.recipient,d.channel,request,d.overrideRateLimit,d.moment.time⟩]})

def marks (d : NotificationDelivery) (f : NotificationRecord → NotificationRecord) (s : ServiceState) : ServiceState :=
  {s with tracker := s.tracker.mark d.moment.uuid4 f}

-- record.metadata[key] = value
def annotate (reference : Nat) (key : String) (value : Value) (s : ServiceState) : ServiceState :=
  {s with tracker := s.tracker.change reference fun r => {r with metadata := r.metadata.set key value}}

def sendEmail (d : NotificationDelivery) (reference : Nat) : Effect ServiceState Unit := do
  let request ← ofExcept (c.emailRequest d)
  let result ← provide d request
  modify (marks d (.markSent d.moment.markedAt))
  modify (annotate reference "provider_message_id" (result.value "message_id"))

def sendSms (d : NotificationDelivery) (reference : Nat) : Effect ServiceState Unit := do
  let request ← ofExcept (c.smsRequest d)
  let result ← provide d request
  modify (marks d (.markSent d.moment.markedAt))
  modify (annotate reference "provider_message_id" (result.value "message_id"))

def sendWebhook (d : NotificationDelivery) : Effect ServiceState Unit := do
  let request ← ofExcept (c.webhookRequest d)
  let _ ← provide d request
  modify (marks d (.markDelivered d.moment.markedAt))

def sendInApp (d : NotificationDelivery) (reference : Nat) : Effect ServiceState Unit := do
  let request ← ofExcept (c.inAppRequest d)
  let result ← provide d request
  if result.value "status" = .str "delivered" then modify (marks d (.markDelivered d.moment.markedAt))
  else do
    modify (marks d (.markSent d.moment.markedAt))
    modify (annotate reference "queued" (.bool true))

def dispatch (d : NotificationDelivery) (reference : Nat) : Effect ServiceState Unit :=
  match d.channel with
  | .email => c.sendEmail d reference
  | .sms => c.sendSms d reference
  | .webhook => c.sendWebhook d
  | .inApp => c.sendInApp d reference

def created (d : NotificationDelivery) (s : ServiceState) : ServiceState :=
  {s with tracker := s.tracker.createRecord ⟨d.moment.uuid4,d.alert.alertId,d.channel,d.recipient,.pending,d.moment.createdAt,
    none,none,none,none,none,.ofList [("severity",.str d.alert.severity.value)]⟩}

-- What the rate limiter makes of a delivery that reaches it.
def admission (d : NotificationDelivery) (buckets : DeliveryBuckets) : Bool × DeliveryBuckets :=
  if d.overrideRateLimit then (true,buckets)
  else NotificationRateLimiter.isAllowed c.defaultLimit d.moment.time d.recipient
    (some (d.preferences.getPreference d.recipient).rateLimitPerHour) buckets

def deliverToChannel (d : NotificationDelivery) (s : ServiceState) : Nat × ServiceState :=
  let reference := s.tracker.objects.length
  let s := created d s
  if d.preferences.isChannelEnabled d.recipient d.channel d.alert.severity = false then
    (reference,marks d (.markFailed d.moment.markedAt "channel_disabled_by_preference") s)
  else if d.alert.severity ≠ .critical ∧ d.preferences.isInQuietHours d.moment.currentHour d.recipient = true then
    (reference,marks d (.markFailed d.moment.markedAt "quiet_hours") s)
  else
    let (allowed,buckets) := c.admission d s.buckets
    if allowed = false then (reference,marks d .markRateLimited {s with buckets})
    else (reference,(attempt (c.dispatch d reference)
      (fun reason => modify (marks d (.markFailed d.moment.markedAt reason))) {s with buckets}).2)

def resolveChannels : AlertSeverity → List NotificationChannel
  | .low => [.email]
  | .medium => [.email,.inApp]
  | .high => [.email,.sms,.inApp]
  | .critical => [.email,.sms,.webhook,.inApp]

def targetChannels (channels : Option (List NotificationChannel)) (alert : Alert) : List NotificationChannel :=
  match channels with
  | some (first :: rest) => first :: rest
  | _ => resolveChannels alert.severity

def channelMap : NotificationChannel → String
  | .email => "email"
  | .sms => "sms"
  | .webhook => "webhook"
  | .inApp => "dashboard"

-- The pairs that a call delivers to, in the order it does.
def pairs (call : NotifyCall) : List (String × NotificationChannel) :=
  call.recipients.flatMap fun recipient => (targetChannels call.channels call.alert).map (recipient,·)

def delivery (call : NotifyCall) (pair : (String × NotificationChannel) × Nat) : NotificationDelivery :=
  ⟨call.alert,c.render call.alert (channelMap pair.1.2),pair.1.1,pair.1.2,call.overrideRateLimit,call.preferences,call.moments pair.2⟩

def deliveries (call : NotifyCall) : List NotificationDelivery := (pairs call).zipIdx.map (c.delivery call)

def deliverAll (s : ServiceState) : List NotificationDelivery → List Nat × ServiceState
  | [] => ([],s)
  | d :: rest =>
    let (reference,t) := c.deliverToChannel d s
    let (references,u) := deliverAll t rest
    (reference :: references,u)

def notify (call : NotifyCall) (s : ServiceState) : List Nat × ServiceState := c.deliverAll s (c.deliveries call)

end NotificationService
end RiskPulse
