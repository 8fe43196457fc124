import RiskPulse.Record

namespace RiskPulse

-- What the four enrichers report. Fields typed str in the source are values
-- here: the real enrichers copy them from the record without a check.
structure GeoLocation where
  countryCode : Value
  countryName : Value
  city : Value
  latitude : PyFloat
  longitude : PyFloat
  isVpn : Bool
  isProxy : Bool
  isTor : Bool

structure GeoEnrichmentResult where
  location : Option GeoLocation
  distanceFromHomeMiles : Option PyFloat
  countryRiskScore : PyFloat
  isHighRiskCountry : Bool
  travelSpeedMph : Option PyFloat
  isImpossibleTravel : Bool
  error : Option String

structure DeviceInfo where
  deviceId : Value
  deviceType : String
  fingerprintHash : String
  osFamily : Value
  browserFamily : Value
  isEmulator : Value
  isRooted : Value

structure DeviceEnrichmentResult where
  deviceInfo : Option DeviceInfo
  isKnownDevice : Bool
  deviceAgeDays : Option PyFloat
  isNewDevice : Bool
  deviceTrustScore : PyFloat
  accountsOnDevice : Nat
  isMultiAccountDevice : Bool
  transactionsOnDevice : Nat
  deviceRiskScore : PyFloat
  error : Option String

structure MerchantInfo where
  merchantId : Value
  merchantName : Value
  mcc : Value
  categoryName : Value
  riskCategory : Value

structure MerchantEnrichmentResult where
  merchantInfo : Option MerchantInfo
  mccRiskScore : PyFloat
  merchantFraudRate : PyFloat
  isHighFraudMerchant : Bool
  isNewMerchant : Bool
  merchantAgeDays : Option PyFloat
  merchantRiskScore : PyFloat
  error : Option String

structure VelocityMetrics where
  transactionCount1min : Nat
  transactionCount5min : Nat
  transactionCount1hour : Nat
  transactionCount24hour : Nat
  amountSum1min : PyFloat
  amountSum5min : PyFloat
  amountSum1hour : PyFloat
  amountSum24hour : PyFloat
  uniqueMerchants1hour : Nat
  uniqueMerchants24hour : Nat
  avgAmount1hour : PyFloat
  maxAmount1hour : PyFloat

structure ThresholdBreach where
  metricName : String
  currentValue : PyFloat
  thresholdValue : PyFloat
  severity : String

structure VelocityResult where
  metrics : VelocityMetrics
  breaches : List ThresholdBreach
  velocityRiskScore : PyFloat
  hasWarning : Bool
  hasCritical : Bool
  error : Option String

def optionalFloat (value : Option PyFloat) : Value := (value.map Value.float).getD .none

def GeoEnrichmentResult.isSuccess (result : GeoEnrichmentResult) : Bool := result.error.isNone
def DeviceEnrichmentResult.isSuccess (result : DeviceEnrichmentResult) : Bool := result.error.isNone
def MerchantEnrichmentResult.isSuccess (result : MerchantEnrichmentResult) : Bool := result.error.isNone
def VelocityResult.isSuccess (result : VelocityResult) : Bool := result.error.isNone

def GeoEnrichmentResult.toDict (result : GeoEnrichmentResult) : Record :=
  OrderedDict.ofList
    [("geo_country_code",(result.location.map GeoLocation.countryCode).getD .none),
     ("geo_country_name",(result.location.map GeoLocation.countryName).getD .none),
     ("geo_city",(result.location.map GeoLocation.city).getD .none),
     ("geo_latitude",optionalFloat (result.location.map GeoLocation.latitude)),
     ("geo_longitude",optionalFloat (result.location.map GeoLocation.longitude)),
     ("geo_is_vpn",.bool ((result.location.map GeoLocation.isVpn).getD false)),
     ("geo_is_proxy",.bool ((result.location.map GeoLocation.isProxy).getD false)),
     ("geo_is_tor",.bool ((result.location.map GeoLocation.isTor).getD false)),
     ("geo_distance_from_home_miles",optionalFloat result.distanceFromHomeMiles),
     ("geo_country_risk_score",.float result.countryRiskScore),
     ("geo_is_high_risk_country",.bool result.isHighRiskCountry),
     ("geo_travel_speed_mph",optionalFloat result.travelSpeedMph),
     ("geo_is_impossible_travel",.bool result.isImpossibleTravel)]

def DeviceEnrichmentResult.toDict (result : DeviceEnrichmentResult) : Record :=
  OrderedDict.ofList
    [("device_id",(result.deviceInfo.map DeviceInfo.deviceId).getD .none),
     ("device_type",.str ((result.deviceInfo.map DeviceInfo.deviceType).getD "unknown")),
     ("device_fingerprint_hash",((result.deviceInfo.map DeviceInfo.fingerprintHash).map Value.str).getD .none),
     ("device_os_family",(result.deviceInfo.map DeviceInfo.osFamily).getD .none),
     ("device_browser_family",(result.deviceInfo.map DeviceInfo.browserFamily).getD .none),
     ("device_is_emulator",(result.deviceInfo.map DeviceInfo.isEmulator).getD (.bool false)),
     ("device_is_rooted",(result.deviceInfo.map DeviceInfo.isRooted).getD (.bool false)),
     ("device_is_known",.bool result.isKnownDevice),
     ("device_age_days",optionalFloat result.deviceAgeDays),
     ("device_is_new",.bool result.isNewDevice),
     ("device_trust_score",.float result.deviceTrustScore),
     ("device_accounts_count",.int result.accountsOnDevice),
     ("device_is_multi_account",.bool result.isMultiAccountDevice),
     ("device_transactions_count",.int result.transactionsOnDevice),
     ("device_risk_score",.float result.deviceRiskScore)]

def MerchantEnrichmentResult.toDict (result : MerchantEnrichmentResult) : Record :=
  OrderedDict.ofList
    [("merchant_id",(result.merchantInfo.map MerchantInfo.merchantId).getD .none),
     ("merchant_name",(result.merchantInfo.map MerchantInfo.merchantName).getD .none),
     ("merchant_mcc",(result.merchantInfo.map MerchantInfo.mcc).getD .none),
     ("merchant_category_name",(result.merchantInfo.map MerchantInfo.categoryName).getD .none),
     ("merchant_risk_category",(result.merchantInfo.map MerchantInfo.riskCategory).getD (.str "unknown")),
     ("merchant_mcc_risk_score",.float result.mccRiskScore),
     ("merchant_fraud_rate",.float result.merchantFraudRate),
     ("merchant_is_high_fraud",.bool result.isHighFraudMerchant),
     ("merchant_is_new",.bool result.isNewMerchant),
     ("merchant_age_days",optionalFloat result.merchantAgeDays),
     ("merchant_risk_score",.float result.merchantRiskScore)]

def VelocityMetrics.toDict (metrics : VelocityMetrics) : Record :=
  OrderedDict.ofList
    [("velocity_txn_count_1min",.int metrics.transactionCount1min),
     ("velocity_txn_count_5min",.int metrics.transactionCount5min),
     ("velocity_txn_count_1hour",.int metrics.transactionCount1hour),
     ("velocity_txn_count_24hour",.int metrics.transactionCount24hour),
     ("velocity_amount_sum_1min",.float metrics.amountSum1min),
     ("velocity_amount_sum_5min",.float metrics.amountSum5min),
     ("velocity_amount_sum_1hour",.float metrics.amountSum1hour),
     ("velocity_amount_sum_24hour",.float metrics.amountSum24hour),
     ("velocity_unique_merchants_1hour",.int metrics.uniqueMerchants1hour),
     ("velocity_unique_merchants_24hour",.int metrics.uniqueMerchants24hour),
     ("velocity_avg_amount_1hour",.float metrics.avgAmount1hour),
     ("velocity_max_amount_1hour",.float metrics.maxAmount1hour)]

def ThresholdBreach.toDict (breach : ThresholdBreach) : Value :=
  .dict [("metric",.str breach.metricName),("current_value",.float breach.currentValue),
    ("threshold_value",.float breach.thresholdValue),("severity",.str breach.severity)]

def VelocityResult.toDict (result : VelocityResult) : Record :=
  result.metrics.toDict.update (OrderedDict.ofList
    [("velocity_risk_score",.float result.velocityRiskScore),
     ("velocity_breach_count",.int result.breaches.length),
     ("velocity_has_warning",.bool result.hasWarning),
     ("velocity_has_critical",.bool result.hasCritical),
     ("velocity_breaches",.list (result.breaches.map ThresholdBreach.toDict))])

end RiskPulse
