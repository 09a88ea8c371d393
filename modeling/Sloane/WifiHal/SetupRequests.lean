import Sloane.Lib.AttrTree
import Sloane.WifiHal.PasspointList
import Sloane.WifiHal.ScanResults

/-!
# Building the requests

Model of `WifiRequest::create` and `put…` (`cpp_bindings.cpp`, `cpp_bindings.h`) and of the
methods that build a request with values in it (`gscan.cpp`, `rtt.cpp`, `wifi_hal.cpp`,
`wifi_offload.cpp`).  An attribute has the type that is given for it, in 16 bits.  The arrays of the
caller are functions of the index.

* `SetupRequest.appends` — what each of them appends to the message, in what order and nesting, or
  that it returns an error; none ends an attribute that could not be started.
-/

namespace Sloane.WifiHal.Requests

open Sloane.Lib
open AttrWriter (nested nestedOr forIndices putAttr)

/-! ## Putting attributes -/

/-- What is returned when there is no request. -/
abbrev Failure := { result : Int // result < 0 }

/-- The result of `nla_put` where there is no room. -/
def NO_ROOM : Failure := ⟨-5, by decide⟩

def OUT_OF_MEMORY : Failure := ⟨WIFI_ERROR_OUT_OF_MEMORY, by decide⟩

def INVALID_ARGS : Failure := ⟨WIFI_ERROR_INVALID_ARGS, by decide⟩

abbrev Request := AttrWriter Failure Unit

def put (type : Nat) (bytes : List UInt8) : Request := putAttr NO_ROOM (.ofNat type) bytes
def putU8 (type : Nat) (value : UInt8) : Request := put type [value]
def putU16 (type : Nat) (value : UInt16) : Request := put type (leBytes 2 value.toNat)
def putU32 (type : Nat) (value : UInt32) : Request := put type (leBytes 4 value.toNat)
def putString (type : Nat) (value : List UInt8) : Request := put type (value ++ [0])

/-- `mac_addr`. -/
abbrev MacAddr := Vector UInt8 6

def putAddr (type : Nat) (value : MacAddr) : Request := put type value.toList

/-- An attribute with a nest around it, and one where a nest that is NULL is an error. -/
def inNest (type : Nat) (body : Request) : Request := nested (.ofNat type) body

def inNestOr (type : Nat) (body : Request) : Request :=
  nestedOr OUT_OF_MEMORY (.ofNat type) body

/-- `WifiRequest::create(id, subcmd)`, with `set_iface_id`. -/
def create (mIface : Int) (id subcmd : UInt32) : Request := do
  putU32 NL80211_ATTR_VENDOR_ID id
  putU32 NL80211_ATTR_VENDOR_SUBCMD subcmd
  if mIface ≠ -1 then putU32 NL80211_ATTR_IFINDEX (.ofInt mIface) else pure ()

/-- A request of the vendor with these attributes nested in it. -/
def vendorRequest (mIface : Int) (subcmd : UInt32) (body : Request) : Request := do
  create mIface GOOGLE_OUI.toUInt32 subcmd
  inNest NL80211_ATTR_VENDOR_DATA body

/-! ## The attributes -/

namespace Attr

def bytes (type : Nat) (value : List UInt8) : AttrTree := .leaf (.ofNat type) value
def u8 (type : Nat) (value : UInt8) : AttrTree := bytes type [value]
def u16 (type : Nat) (value : UInt16) : AttrTree := bytes type (leBytes 2 value.toNat)
def u32 (type : Nat) (value : UInt32) : AttrTree := bytes type (leBytes 4 value.toNat)
def addr (type : Nat) (value : MacAddr) : AttrTree := bytes type value.toList
def nest (type : Nat) (attrs : List AttrTree) : AttrTree := .nest (.ofNat type) attrs

/-- The attributes for the entries of an array. -/
def each (n : Nat) (entry : Nat → AttrTree) : List AttrTree := (List.range n).map entry

end Attr

/-- What is in front of the data of the vendor. -/
def header (mIface : Int) (subcmd : UInt32) : List AttrTree :=
  [Attr.u32 NL80211_ATTR_VENDOR_ID GOOGLE_OUI.toUInt32,
    Attr.u32 NL80211_ATTR_VENDOR_SUBCMD subcmd] ++
    if mIface ≠ -1 then [Attr.u32 NL80211_ATTR_IFINDEX (.ofInt mIface)] else []

/-! ## The commands -/

def GSCAN_SUBCMD_SET_CONFIG : UInt32 := 0x1001
def GSCAN_SUBCMD_SET_SCAN_CONFIG : UInt32 := 0x1002
def GSCAN_SUBCMD_ENABLE_GSCAN : UInt32 := 0x1003
def GSCAN_SUBCMD_GET_SCAN_RESULTS : UInt32 := 0x1004
def GSCAN_SUBCMD_SET_HOTLIST : UInt32 := 0x1006
def GSCAN_SUBCMD_SET_SIGNIFICANT_CHANGE_CONFIG : UInt32 := 0x1007
def GSCAN_SUBCMD_ENABLE_FULL_SCAN_RESULTS : UInt32 := 0x1008
def GSCAN_SUBCMD_SET_EPNO_SSID : UInt32 := 0x100F
def RTT_SUBCMD_SET_CONFIG : UInt32 := 0x1100
def WIFI_SUBCMD_GET_CHANNEL_LIST : UInt32 := 0x0001
def WIFI_SUBCMD_SET_COUNTRY_CODE : UInt32 := 0x0006
def WIFI_SUBCMD_SET_RSSI_MONITOR : UInt32 := 0x0007
def WIFI_OFFLOAD_START_MKEEP_ALIVE : UInt32 := 0x1600
def WIFI_OFFLOAD_STOP_MKEEP_ALIVE : UInt32 := 0x1601

/-! ### Scans -/

def GSCAN_ATTRIBUTE_NUM_BUCKETS : Nat := 10
def GSCAN_ATTRIBUTE_BASE_PERIOD : Nat := 11
def GSCAN_ATTRIBUTE_BUCKETS_BAND : Nat := 12
def GSCAN_ATTRIBUTE_BUCKET_ID : Nat := 13
def GSCAN_ATTRIBUTE_BUCKET_PERIOD : Nat := 14
def GSCAN_ATTRIBUTE_BUCKET_NUM_CHANNELS : Nat := 15
def GSCAN_ATTRIBUTE_BUCKET_CHANNELS : Nat := 16
def GSCAN_ATTRIBUTE_NUM_AP_PER_SCAN : Nat := 17
def GSCAN_ATTRIBUTE_REPORT_THRESHOLD : Nat := 18
def GSCAN_ATTRIBUTE_NUM_SCANS_TO_CACHE : Nat := 19
def GSCAN_ATTRIBUTE_ENABLE_FEATURE : Nat := 20
def GSCAN_ENABLE_FULL_SCAN_RESULTS : Nat := 23
def GSCAN_ATTRIBUTE_REPORT_EVENTS : Nat := 24
def GSCAN_ATTRIBUTE_BUCKET_STEP_COUNT : Nat := 25
def GSCAN_ATTRIBUTE_BUCKET_MAX_PERIOD : Nat := 26
def GSCAN_ATTRIBUTE_FLUSH_RESULTS : Nat := 31

def WIFI_BAND_UNSPECIFIED : Int32 := 0
def WIFI_BAND_ABG : Int32 := 3
def WIFI_BAND_ABG_WITH_DFS : Int32 := 7

/-- `wifi_scan_bucket_spec`, with the channels' numbers. -/
structure ScanBucketSpec where
  bucket : Int32
  band : Int32
  period : Int32
  reportEvents : UInt32
  maxPeriod : Int32
  stepCount : Int32
  numChannels : Int32
  channels : Nat → Int32

/-- `wifi_scan_cmd_params`. -/
structure ScanCmdParams where
  basePeriod : Int32
  maxApPerScan : Int32
  reportThresholdPercent : Int32
  reportThresholdNumScans : Int32
  numBuckets : Int32
  buckets : Nat → ScanBucketSpec

/-- The band that is sent; others than those of the enumeration are not. -/
def ScanBucketSpec.checkedBand (bucket : ScanBucketSpec) : Int32 :=
  if bucket.band < WIFI_BAND_UNSPECIFIED ∨ bucket.band > WIFI_BAND_ABG_WITH_DFS then WIFI_BAND_ABG
  else bucket.band

def ScanCmdParams.checkedPercent (params : ScanCmdParams) : Int32 :=
  if params.reportThresholdPercent < 0 ∨ params.reportThresholdPercent > 100 then 100
  else params.reportThresholdPercent

/-- The body of the loop over the buckets, in `ScanCommand::createSetupRequest`. -/
def putBucket (bucket : ScanBucketSpec) : Request := do
  putU32 GSCAN_ATTRIBUTE_BUCKET_ID bucket.bucket.toUInt32
  putU32 GSCAN_ATTRIBUTE_BUCKET_PERIOD bucket.period.toUInt32
  putU32 GSCAN_ATTRIBUTE_BUCKETS_BAND bucket.checkedBand.toUInt32
  putU32 GSCAN_ATTRIBUTE_BUCKET_STEP_COUNT bucket.stepCount.toUInt32
  putU32 GSCAN_ATTRIBUTE_BUCKET_MAX_PERIOD bucket.maxPeriod.toUInt32
  putU32 GSCAN_ATTRIBUTE_REPORT_EVENTS bucket.reportEvents
  putU32 GSCAN_ATTRIBUTE_BUCKET_NUM_CHANNELS bucket.numChannels.toUInt32
  if bucket.numChannels ≠ 0 then
    inNest GSCAN_ATTRIBUTE_BUCKET_CHANNELS
      (forIndices (fun j => putU32 j (bucket.channels j).toUInt32) 0
        bucket.numChannels.toNatClampNeg)
  else pure ()

/-- `ScanCommand::createSetupRequest`. -/
def ScanCommand.createSetupRequest (mIface : Int) (mParams : ScanCmdParams) : Request :=
  vendorRequest mIface GSCAN_SUBCMD_SET_CONFIG do
    putU32 GSCAN_ATTRIBUTE_BASE_PERIOD mParams.basePeriod.toUInt32
    putU32 GSCAN_ATTRIBUTE_NUM_BUCKETS mParams.numBuckets.toUInt32
    forIndices (fun i => inNest i (putBucket (mParams.buckets i))) 0
      mParams.numBuckets.toNatClampNeg

/-- `ScanCommand::createScanConfigRequest`. -/
def ScanCommand.createScanConfigRequest (mIface : Int) (mParams : ScanCmdParams) : Request :=
  vendorRequest mIface GSCAN_SUBCMD_SET_SCAN_CONFIG do
    putU32 GSCAN_ATTRIBUTE_NUM_AP_PER_SCAN mParams.maxApPerScan.toUInt32
    putU32 GSCAN_ATTRIBUTE_REPORT_THRESHOLD mParams.checkedPercent.toUInt32
    putU32 GSCAN_ATTRIBUTE_NUM_SCANS_TO_CACHE mParams.reportThresholdNumScans.toUInt32

/-- `createFeatureRequest`, with which a scan is started and stopped. -/
def createFeatureRequest (mIface : Int) (subcmd : UInt32) (enable : Int32) : Request :=
  vendorRequest mIface subcmd (putU32 GSCAN_ATTRIBUTE_ENABLE_FEATURE enable.toUInt32)

/-- `FullScanResultsCommand::createRequest`. -/
def FullScanResultsCommand.createRequest (mIface : Int) (subcmd : UInt32) (enable : Int32) :
    Request :=
  vendorRequest mIface subcmd (putU32 GSCAN_ENABLE_FULL_SCAN_RESULTS enable.toUInt32)

/-- `GetScanResultsCommand::createRequest`. -/
def GetScanResultsCommand.createRequest (mIface : Int) (num : Int32) (flush : UInt8) : Request :=
  vendorRequest mIface GSCAN_SUBCMD_GET_SCAN_RESULTS do
    putU32 GSCAN_ATTRIBUTE_NUM_OF_RESULTS num.toUInt32
    putU8 GSCAN_ATTRIBUTE_FLUSH_RESULTS flush

/-! ### Networks that are watched -/

def GSCAN_ATTRIBUTE_BSSID : Nat := 41
def GSCAN_ATTRIBUTE_HOTLIST_BSSIDS : Nat := 50
def GSCAN_ATTRIBUTE_RSSI_LOW : Nat := 51
def GSCAN_ATTRIBUTE_RSSI_HIGH : Nat := 52
def GSCAN_ATTRIBUTE_HOTLIST_ELEM : Nat := 53
def GSCAN_ATTRIBUTE_HOTLIST_FLUSH : Nat := 54
def GSCAN_ATTRIBUTE_RSSI_SAMPLE_SIZE : Nat := 60
def GSCAN_ATTRIBUTE_LOST_AP_SAMPLE_SIZE : Nat := 61
def GSCAN_ATTRIBUTE_MIN_BREACHING : Nat := 62
def GSCAN_ATTRIBUTE_NUM_AP : Nat := 63
def GSCAN_ATTRIBUTE_SIGNIFICANT_CHANGE_BSSIDS : Nat := 64
def GSCAN_ATTRIBUTE_SIGNIFICANT_CHANGE_FLUSH : Nat := 65

/-- `ap_threshold_param`. -/
structure ApThresholdParam where
  bssid : MacAddr
  low : Int32
  high : Int32

/-- `wifi_bssid_hotlist_params`. -/
structure BssidHotlistParams where
  lostApSampleSize : Int32
  numBssid : Int32
  ap : Nat → ApThresholdParam

/-- `wifi_significant_change_params`. -/
structure SignificantChangeParams where
  rssiSampleSize : Int32
  lostApSampleSize : Int32
  minBreaching : Int32
  numBssid : Int32
  ap : Nat → ApThresholdParam

/-- A conversion of an `int` to `uint16_t`. -/
def u16OfInt (n : Int32) : UInt16 := n.toUInt32.toUInt16

/-- What both loops put for an access point. -/
def putThreshold (ap : ApThresholdParam) : Request := do
  putAddr GSCAN_ATTRIBUTE_BSSID ap.bssid
  putU32 GSCAN_ATTRIBUTE_RSSI_HIGH ap.high.toUInt32
  putU32 GSCAN_ATTRIBUTE_RSSI_LOW ap.low.toUInt32

/-- `BssidHotlistCommand::createSetupRequest`. -/
def BssidHotlistCommand.createSetupRequest (mIface : Int) (mParams : BssidHotlistParams) :
    Request :=
  vendorRequest mIface GSCAN_SUBCMD_SET_HOTLIST do
    putU8 GSCAN_ATTRIBUTE_HOTLIST_FLUSH 1
    putU32 GSCAN_ATTRIBUTE_LOST_AP_SAMPLE_SIZE mParams.lostApSampleSize.toUInt32
    putU16 GSCAN_ATTRIBUTE_NUM_AP (u16OfInt mParams.numBssid)
    inNest GSCAN_ATTRIBUTE_HOTLIST_BSSIDS
      (forIndices (fun i => inNestOr GSCAN_ATTRIBUTE_HOTLIST_ELEM (putThreshold (mParams.ap i))) 0
        mParams.numBssid.toNatClampNeg)

/-- `SignificantWifiChangeCommand::createSetupRequest`. -/
def SignificantWifiChangeCommand.createSetupRequest (mIface : Int)
    (mParams : SignificantChangeParams) : Request :=
  vendorRequest mIface GSCAN_SUBCMD_SET_SIGNIFICANT_CHANGE_CONFIG do
    putU8 GSCAN_ATTRIBUTE_SIGNIFICANT_CHANGE_FLUSH 1
    putU16 GSCAN_ATTRIBUTE_RSSI_SAMPLE_SIZE (u16OfInt mParams.rssiSampleSize)
    putU16 GSCAN_ATTRIBUTE_LOST_AP_SAMPLE_SIZE (u16OfInt mParams.lostApSampleSize)
    putU16 GSCAN_ATTRIBUTE_MIN_BREACHING (u16OfInt mParams.minBreaching)
    putU16 GSCAN_ATTRIBUTE_NUM_AP (u16OfInt mParams.numBssid)
    inNest GSCAN_ATTRIBUTE_SIGNIFICANT_CHANGE_BSSIDS
      (forIndices (fun i => inNestOr i (putThreshold (mParams.ap i))) 0
        mParams.numBssid.toNatClampNeg)

/-- `SignificantWifiChangeCommand::createTeardownRequest`; the flag is one of 16 bits here. -/
def SignificantWifiChangeCommand.createTeardownRequest (mIface : Int) : Request :=
  vendorRequest mIface GSCAN_SUBCMD_SET_SIGNIFICANT_CHANGE_CONFIG
    (putU16 GSCAN_ATTRIBUTE_SIGNIFICANT_CHANGE_FLUSH 1)

/-! ### Preferred networks -/

def GSCAN_ATTRIBUTE_EPNO_SSID_LIST : Nat := 70
def GSCAN_ATTRIBUTE_EPNO_SSID : Nat := 71
def GSCAN_ATTRIBUTE_EPNO_SSID_LEN : Nat := 72
def GSCAN_ATTRIBUTE_EPNO_FLAGS : Nat := 74
def GSCAN_ATTRIBUTE_EPNO_AUTH : Nat := 75
def GSCAN_ATTRIBUTE_EPNO_SSID_NUM : Nat := 76
def GSCAN_ATTRIBUTE_EPNO_FLUSH : Nat := 77
def GSCAN_ATTRIBUTE_EPNO_5G_RSSI_THR : Nat := 130
def GSCAN_ATTRIBUTE_EPNO_2G_RSSI_THR : Nat := 131
def GSCAN_ATTRIBUTE_EPNO_INIT_SCORE_MAX : Nat := 132
def GSCAN_ATTRIBUTE_EPNO_CUR_CONN_BONUS : Nat := 133
def GSCAN_ATTRIBUTE_EPNO_SAME_NETWORK_BONUS : Nat := 134
def GSCAN_ATTRIBUTE_EPNO_SECURE_BONUS : Nat := 135
def GSCAN_ATTRIBUTE_EPNO_5G_BONUS : Nat := 136

def MAX_EPNO_NETWORKS : Int32 := 64
def DOT11_MAX_SSID_LEN : Nat := 32

/-- `wifi_epno_network`; the SSID is a C string. -/
structure EpnoNetwork where
  ssid : Vector UInt8 33
  terminated : 0 ∈ ssid.toList
  flags : UInt8
  authBitField : UInt8

/-- `strlen(ssid)`. -/
def EpnoNetwork.ssidLen (network : EpnoNetwork) : Nat :=
  (network.ssid.toList.takeWhile (· ≠ 0)).length

/-- `wifi_epno_params`. -/
structure EpnoParams where
  min5GHzRssi : Int32
  min24GHzRssi : Int32
  initialScoreMax : Int32
  currentConnectionBonus : Int32
  sameNetworkBonus : Int32
  secureBonus : Int32
  band5GHzBonus : Int32
  numNetworks : Int32
  networks : Nat → EpnoNetwork

/-- The body of the loop over the networks. -/
def putNetwork (network : EpnoNetwork) : Request := do
  put GSCAN_ATTRIBUTE_EPNO_SSID (network.ssid.toList.take DOT11_MAX_SSID_LEN)
  putU32 GSCAN_ATTRIBUTE_EPNO_SSID_LEN (.ofNat network.ssidLen)
  putU32 GSCAN_ATTRIBUTE_EPNO_FLAGS network.flags.toUInt32
  putU32 GSCAN_ATTRIBUTE_EPNO_AUTH network.authBitField.toUInt32

/-- `ePNOCommand::createSetupRequest`. -/
def ePNOCommand.createSetupRequest (mIface : Int) (epnoParams : EpnoParams) : Request :=
  if epnoParams.numNetworks > MAX_EPNO_NETWORKS then throw (.refused INVALID_ARGS)
  else
    vendorRequest mIface GSCAN_SUBCMD_SET_EPNO_SSID do
      putU8 GSCAN_ATTRIBUTE_EPNO_FLUSH 1
      putU8 GSCAN_ATTRIBUTE_EPNO_5G_RSSI_THR epnoParams.min5GHzRssi.toUInt32.toUInt8
      putU8 GSCAN_ATTRIBUTE_EPNO_2G_RSSI_THR epnoParams.min24GHzRssi.toUInt32.toUInt8
      putU16 GSCAN_ATTRIBUTE_EPNO_INIT_SCORE_MAX (u16OfInt epnoParams.initialScoreMax)
      putU16 GSCAN_ATTRIBUTE_EPNO_CUR_CONN_BONUS (u16OfInt epnoParams.currentConnectionBonus)
      putU16 GSCAN_ATTRIBUTE_EPNO_SAME_NETWORK_BONUS (u16OfInt epnoParams.sameNetworkBonus)
      putU16 GSCAN_ATTRIBUTE_EPNO_SECURE_BONUS (u16OfInt epnoParams.secureBonus)
      putU16 GSCAN_ATTRIBUTE_EPNO_5G_BONUS (u16OfInt epnoParams.band5GHzBonus)
      putU8 GSCAN_ATTRIBUTE_EPNO_SSID_NUM epnoParams.numNetworks.toUInt32.toUInt8
      inNest GSCAN_ATTRIBUTE_EPNO_SSID_LIST
        (forIndices (fun i => inNestOr i (putNetwork (epnoParams.networks i))) 0
          epnoParams.numNetworks.toNatClampNeg)

/-- `ePNOCommand::createTeardownRequest`. -/
def ePNOCommand.createTeardownRequest (mIface : Int) : Request :=
  vendorRequest mIface GSCAN_SUBCMD_SET_EPNO_SSID (putU8 GSCAN_ATTRIBUTE_EPNO_FLUSH 1)

/-! ### Ranging -/

def RTT_ATTRIBUTE_TARGET_CNT : Nat := 10
def RTT_ATTRIBUTE_TARGET_INFO : Nat := 11
def RTT_ATTRIBUTE_TARGET_MAC : Nat := 12
def RTT_ATTRIBUTE_TARGET_TYPE : Nat := 13
def RTT_ATTRIBUTE_TARGET_PEER : Nat := 14
def RTT_ATTRIBUTE_TARGET_CHAN : Nat := 15
def RTT_ATTRIBUTE_TARGET_PERIOD : Nat := 16
def RTT_ATTRIBUTE_TARGET_NUM_BURST : Nat := 17
def RTT_ATTRIBUTE_TARGET_NUM_FTM_BURST : Nat := 18
def RTT_ATTRIBUTE_TARGET_NUM_RETRY_FTM : Nat := 19
def RTT_ATTRIBUTE_TARGET_NUM_RETRY_FTMR : Nat := 20
def RTT_ATTRIBUTE_TARGET_LCI : Nat := 21
def RTT_ATTRIBUTE_TARGET_LCR : Nat := 22
def RTT_ATTRIBUTE_TARGET_BURST_DURATION : Nat := 23
def RTT_ATTRIBUTE_TARGET_PREAMBLE : Nat := 24
def RTT_ATTRIBUTE_TARGET_BW : Nat := 25

/-- `wifi_rtt_config`, with the bytes of the channel. -/
structure RttConfig where
  addr : MacAddr
  type : UInt32
  peer : UInt32
  channel : Vector UInt8 16
  burstPeriod : UInt32
  numBurst : UInt32
  numFramesPerBurst : UInt32
  numRetriesPerRttFrame : UInt32
  numRetriesPerFtmr : UInt32
  LCIRequest : UInt8
  LCRRequest : UInt8
  burstDuration : UInt32
  preamble : UInt32
  bw : UInt32

/-- The body of the loop over the targets. -/
def putTarget (config : RttConfig) : Request := do
  putAddr RTT_ATTRIBUTE_TARGET_MAC config.addr
  putU8 RTT_ATTRIBUTE_TARGET_TYPE config.type.toUInt8
  putU8 RTT_ATTRIBUTE_TARGET_PEER config.peer.toUInt8
  put RTT_ATTRIBUTE_TARGET_CHAN config.channel.toList
  putU32 RTT_ATTRIBUTE_TARGET_NUM_BURST config.numBurst
  putU32 RTT_ATTRIBUTE_TARGET_NUM_FTM_BURST config.numFramesPerBurst
  putU32 RTT_ATTRIBUTE_TARGET_NUM_RETRY_FTM config.numRetriesPerRttFrame
  putU32 RTT_ATTRIBUTE_TARGET_NUM_RETRY_FTMR config.numRetriesPerFtmr
  putU32 RTT_ATTRIBUTE_TARGET_PERIOD config.burstPeriod
  putU32 RTT_ATTRIBUTE_TARGET_BURST_DURATION config.burstDuration
  putU8 RTT_ATTRIBUTE_TARGET_LCI config.LCIRequest
  putU8 RTT_ATTRIBUTE_TARGET_LCR config.LCRRequest
  putU8 RTT_ATTRIBUTE_TARGET_BW config.bw.toUInt8
  putU8 RTT_ATTRIBUTE_TARGET_PREAMBLE config.preamble.toUInt8

/-- `RttCommand::createSetupRequest`; the count is cut to 8 bits. -/
def RttCommand.createSetupRequest (mIface : Int) (numRttParams : UInt32)
    (rttParams : Nat → RttConfig) : Request :=
  vendorRequest mIface RTT_SUBCMD_SET_CONFIG do
    putU8 RTT_ATTRIBUTE_TARGET_CNT numRttParams.toUInt8
    inNest RTT_ATTRIBUTE_TARGET_INFO
      (forIndices (fun i => inNestOr i (putTarget (rttParams i))) 0 numRttParams.toNat)

/-! ### The others -/

def WIFI_ATTRIBUTE_BAND : Nat := 1
def WIFI_ATTRIBUTE_COUNTRY_CODE : Nat := 8
def WIFI_ATTRIBUTE_MAX_RSSI : Nat := 9
def WIFI_ATTRIBUTE_MIN_RSSI : Nat := 10
def WIFI_ATTRIBUTE_RSSI_MONITOR_START : Nat := 11

def MKEEP_ALIVE_ATTRIBUTE_ID : Nat := 1
def MKEEP_ALIVE_ATTRIBUTE_IP_PKT_LEN : Nat := 2
def MKEEP_ALIVE_ATTRIBUTE_IP_PKT : Nat := 3
def MKEEP_ALIVE_ATTRIBUTE_SRC_MAC_ADDR : Nat := 4
def MKEEP_ALIVE_ATTRIBUTE_DST_MAC_ADDR : Nat := 5
def MKEEP_ALIVE_ATTRIBUTE_PERIOD_MSEC : Nat := 6

/-- `GetChannelListCommand::create`. -/
def GetChannelListCommand.create (mIface : Int) (mBand : Int32) : Request :=
  vendorRequest mIface WIFI_SUBCMD_GET_CHANNEL_LIST (putU32 WIFI_ATTRIBUTE_BAND mBand.toUInt32)

/-- `SetCountryCodeCommand::create`, with the characters of the country code. -/
def SetCountryCodeCommand.create (mIface : Int) (mCountryCode : List UInt8) : Request :=
  vendorRequest mIface WIFI_SUBCMD_SET_COUNTRY_CODE
    (putString WIFI_ATTRIBUTE_COUNTRY_CODE mCountryCode)

/-- `SetRSSIMonitorCommand::createRequest`. -/
def SetRSSIMonitorCommand.createRequest (mIface : Int) (mMaxRssi mMinRssi : Int8)
    (enable : Int32) : Request :=
  vendorRequest mIface WIFI_SUBCMD_SET_RSSI_MONITOR do
    putU32 WIFI_ATTRIBUTE_MAX_RSSI (if enable ≠ 0 then mMaxRssi.toInt32.toUInt32 else 0)
    putU32 WIFI_ATTRIBUTE_MIN_RSSI (if enable ≠ 0 then mMinRssi.toInt32.toUInt32 else 0)
    putU32 WIFI_ATTRIBUTE_RSSI_MONITOR_START enable.toUInt32

/-- The members of a `MKeepAliveCommand` that starts; the packet is as long as it says. -/
structure MKeepAlive where
  mIndex : UInt8
  mIpPkt : List UInt8
  mIpPktLen : UInt16
  len_eq : mIpPkt.length = mIpPktLen.toNat
  mSrcMacAddr : MacAddr
  mDstMacAddr : MacAddr
  mPeriodMsec : UInt32

/-- `MKeepAliveCommand::createRequest` for `START_MKEEP_ALIVE`. -/
def MKeepAliveCommand.createStartRequest (mIface : Int) (cmd : MKeepAlive) : Request :=
  vendorRequest mIface WIFI_OFFLOAD_START_MKEEP_ALIVE do
    putU8 MKEEP_ALIVE_ATTRIBUTE_ID cmd.mIndex
    putU16 MKEEP_ALIVE_ATTRIBUTE_IP_PKT_LEN cmd.mIpPktLen
    put MKEEP_ALIVE_ATTRIBUTE_IP_PKT cmd.mIpPkt
    putAddr MKEEP_ALIVE_ATTRIBUTE_SRC_MAC_ADDR cmd.mSrcMacAddr
    putAddr MKEEP_ALIVE_ATTRIBUTE_DST_MAC_ADDR cmd.mDstMacAddr
    putU32 MKEEP_ALIVE_ATTRIBUTE_PERIOD_MSEC cmd.mPeriodMsec

/-- `MKeepAliveCommand::createRequest` for `STOP_MKEEP_ALIVE`. -/
def MKeepAliveCommand.createStopRequest (mIface : Int) (mIndex : UInt8) : Request :=
  vendorRequest mIface WIFI_OFFLOAD_STOP_MKEEP_ALIVE (putU8 MKEEP_ALIVE_ATTRIBUTE_ID mIndex)

/-! ## What is sent -/

/-- A bucket's nest. -/
def ScanBucketSpec.attrs (bucket : ScanBucketSpec) : List AttrTree :=
  [Attr.u32 GSCAN_ATTRIBUTE_BUCKET_ID bucket.bucket.toUInt32,
    Attr.u32 GSCAN_ATTRIBUTE_BUCKET_PERIOD bucket.period.toUInt32,
    Attr.u32 GSCAN_ATTRIBUTE_BUCKETS_BAND bucket.checkedBand.toUInt32,
    Attr.u32 GSCAN_ATTRIBUTE_BUCKET_STEP_COUNT bucket.stepCount.toUInt32,
    Attr.u32 GSCAN_ATTRIBUTE_BUCKET_MAX_PERIOD bucket.maxPeriod.toUInt32,
    Attr.u32 GSCAN_ATTRIBUTE_REPORT_EVENTS bucket.reportEvents,
    Attr.u32 GSCAN_ATTRIBUTE_BUCKET_NUM_CHANNELS bucket.numChannels.toUInt32] ++
  if bucket.numChannels ≠ 0 then
    [Attr.nest GSCAN_ATTRIBUTE_BUCKET_CHANNELS (Attr.each bucket.numChannels.toNatClampNeg
      fun j => Attr.u32 j (bucket.channels j).toUInt32)]
  else []

def ApThresholdParam.attrs (ap : ApThresholdParam) : List AttrTree :=
  [Attr.addr GSCAN_ATTRIBUTE_BSSID ap.bssid,
    Attr.u32 GSCAN_ATTRIBUTE_RSSI_HIGH ap.high.toUInt32,
    Attr.u32 GSCAN_ATTRIBUTE_RSSI_LOW ap.low.toUInt32]

def EpnoNetwork.attrs (network : EpnoNetwork) : List AttrTree :=
  [Attr.bytes GSCAN_ATTRIBUTE_EPNO_SSID (network.ssid.toList.take DOT11_MAX_SSID_LEN),
    Attr.u32 GSCAN_ATTRIBUTE_EPNO_SSID_LEN (.ofNat network.ssidLen),
    Attr.u32 GSCAN_ATTRIBUTE_EPNO_FLAGS network.flags.toUInt32,
    Attr.u32 GSCAN_ATTRIBUTE_EPNO_AUTH network.authBitField.toUInt32]

def RttConfig.attrs (config : RttConfig) : List AttrTree :=
  [Attr.addr RTT_ATTRIBUTE_TARGET_MAC config.addr,
    Attr.u8 RTT_ATTRIBUTE_TARGET_TYPE config.type.toUInt8,
    Attr.u8 RTT_ATTRIBUTE_TARGET_PEER config.peer.toUInt8,
    Attr.bytes RTT_ATTRIBUTE_TARGET_CHAN config.channel.toList,
    Attr.u32 RTT_ATTRIBUTE_TARGET_NUM_BURST config.numBurst,
    Attr.u32 RTT_ATTRIBUTE_TARGET_NUM_FTM_BURST config.numFramesPerBurst,
    Attr.u32 RTT_ATTRIBUTE_TARGET_NUM_RETRY_FTM config.numRetriesPerRttFrame,
    Attr.u32 RTT_ATTRIBUTE_TARGET_NUM_RETRY_FTMR config.numRetriesPerFtmr,
    Attr.u32 RTT_ATTRIBUTE_TARGET_PERIOD config.burstPeriod,
    Attr.u32 RTT_ATTRIBUTE_TARGET_BURST_DURATION config.burstDuration,
    Attr.u8 RTT_ATTRIBUTE_TARGET_LCI config.LCIRequest,
    Attr.u8 RTT_ATTRIBUTE_TARGET_LCR config.LCRRequest,
    Attr.u8 RTT_ATTRIBUTE_TARGET_BW config.bw.toUInt8,
    Attr.u8 RTT_ATTRIBUTE_TARGET_PREAMBLE config.preamble.toUInt8]

/-- The requests with values in them. -/
inductive SetupRequest where
  | scan (mParams : ScanCmdParams)
  | scanConfig (mParams : ScanCmdParams)
  | feature (enable : Int32)
  | fullScan (enable : Int32)
  | scanResults (num : Int32) (flush : UInt8)
  | hotlist (mParams : BssidHotlistParams)
  | significantChange (mParams : SignificantChangeParams)
  | significantChangeTeardown
  | epno (epnoParams : EpnoParams)
  | epnoTeardown
  | rtt (numRttParams : UInt32) (rttParams : Nat → RttConfig)
  | channelList (mBand : Int32)
  | countryCode (mCountryCode : List UInt8)
  | rssiMonitor (mMaxRssi mMinRssi : Int8) (enable : Int32)
  | keepAlive (cmd : MKeepAlive)
  | keepAliveStop (mIndex : UInt8)

namespace SetupRequest

/-- The method that builds the request. -/
def create (mIface : Int) : SetupRequest → Request
  | scan mParams => ScanCommand.createSetupRequest mIface mParams
  | scanConfig mParams => ScanCommand.createScanConfigRequest mIface mParams
  | feature enable => createFeatureRequest mIface GSCAN_SUBCMD_ENABLE_GSCAN enable
  | fullScan enable =>
      FullScanResultsCommand.createRequest mIface GSCAN_SUBCMD_ENABLE_FULL_SCAN_RESULTS enable
  | scanResults num flush => GetScanResultsCommand.createRequest mIface num flush
  | hotlist mParams => BssidHotlistCommand.createSetupRequest mIface mParams
  | significantChange mParams => SignificantWifiChangeCommand.createSetupRequest mIface mParams
  | significantChangeTeardown => SignificantWifiChangeCommand.createTeardownRequest mIface
  | epno epnoParams => ePNOCommand.createSetupRequest mIface epnoParams
  | epnoTeardown => ePNOCommand.createTeardownRequest mIface
  | rtt numRttParams rttParams => RttCommand.createSetupRequest mIface numRttParams rttParams
  | channelList mBand => GetChannelListCommand.create mIface mBand
  | countryCode mCountryCode => SetCountryCodeCommand.create mIface mCountryCode
  | rssiMonitor mMaxRssi mMinRssi enable =>
      SetRSSIMonitorCommand.createRequest mIface mMaxRssi mMinRssi enable
  | keepAlive cmd => MKeepAliveCommand.createStartRequest mIface cmd
  | keepAliveStop mIndex => MKeepAliveCommand.createStopRequest mIface mIndex

def subcmd : SetupRequest → UInt32
  | scan _ => GSCAN_SUBCMD_SET_CONFIG
  | scanConfig _ => GSCAN_SUBCMD_SET_SCAN_CONFIG
  | feature _ => GSCAN_SUBCMD_ENABLE_GSCAN
  | fullScan _ => GSCAN_SUBCMD_ENABLE_FULL_SCAN_RESULTS
  | scanResults _ _ => GSCAN_SUBCMD_GET_SCAN_RESULTS
  | hotlist _ => GSCAN_SUBCMD_SET_HOTLIST
  | significantChange _ | significantChangeTeardown => GSCAN_SUBCMD_SET_SIGNIFICANT_CHANGE_CONFIG
  | epno _ | epnoTeardown => GSCAN_SUBCMD_SET_EPNO_SSID
  | rtt _ _ => RTT_SUBCMD_SET_CONFIG
  | channelList _ => WIFI_SUBCMD_GET_CHANNEL_LIST
  | countryCode _ => WIFI_SUBCMD_SET_COUNTRY_CODE
  | rssiMonitor _ _ _ => WIFI_SUBCMD_SET_RSSI_MONITOR
  | keepAlive _ => WIFI_OFFLOAD_START_MKEEP_ALIVE
  | keepAliveStop _ => WIFI_OFFLOAD_STOP_MKEEP_ALIVE

/-- The attributes in the data of the vendor. -/
def attrs : SetupRequest → List AttrTree
  | scan mParams =>
      [Attr.u32 GSCAN_ATTRIBUTE_BASE_PERIOD mParams.basePeriod.toUInt32,
        Attr.u32 GSCAN_ATTRIBUTE_NUM_BUCKETS mParams.numBuckets.toUInt32] ++
      Attr.each mParams.numBuckets.toNatClampNeg fun i => Attr.nest i (mParams.buckets i).attrs
  | scanConfig mParams =>
      [Attr.u32 GSCAN_ATTRIBUTE_NUM_AP_PER_SCAN mParams.maxApPerScan.toUInt32,
        Attr.u32 GSCAN_ATTRIBUTE_REPORT_THRESHOLD mParams.checkedPercent.toUInt32,
        Attr.u32 GSCAN_ATTRIBUTE_NUM_SCANS_TO_CACHE mParams.reportThresholdNumScans.toUInt32]
  | feature enable => [Attr.u32 GSCAN_ATTRIBUTE_ENABLE_FEATURE enable.toUInt32]
  | fullScan enable => [Attr.u32 GSCAN_ENABLE_FULL_SCAN_RESULTS enable.toUInt32]
  | scanResults num flush =>
      [Attr.u32 GSCAN_ATTRIBUTE_NUM_OF_RESULTS num.toUInt32,
        Attr.u8 GSCAN_ATTRIBUTE_FLUSH_RESULTS flush]
  | hotlist mParams =>
      [Attr.u8 GSCAN_ATTRIBUTE_HOTLIST_FLUSH 1,
        Attr.u32 GSCAN_ATTRIBUTE_LOST_AP_SAMPLE_SIZE mParams.lostApSampleSize.toUInt32,
        Attr.u16 GSCAN_ATTRIBUTE_NUM_AP (u16OfInt mParams.numBssid),
        Attr.nest GSCAN_ATTRIBUTE_HOTLIST_BSSIDS (Attr.each mParams.numBssid.toNatClampNeg
          fun i => Attr.nest GSCAN_ATTRIBUTE_HOTLIST_ELEM (mParams.ap i).attrs)]
  | significantChange mParams =>
      [Attr.u8 GSCAN_ATTRIBUTE_SIGNIFICANT_CHANGE_FLUSH 1,
        Attr.u16 GSCAN_ATTRIBUTE_RSSI_SAMPLE_SIZE (u16OfInt mParams.rssiSampleSize),
        Attr.u16 GSCAN_ATTRIBUTE_LOST_AP_SAMPLE_SIZE (u16OfInt mParams.lostApSampleSize),
        Attr.u16 GSCAN_ATTRIBUTE_MIN_BREACHING (u16OfInt mParams.minBreaching),
        Attr.u16 GSCAN_ATTRIBUTE_NUM_AP (u16OfInt mParams.numBssid),
        Attr.nest GSCAN_ATTRIBUTE_SIGNIFICANT_CHANGE_BSSIDS
          (Attr.each mParams.numBssid.toNatClampNeg fun i => Attr.nest i (mParams.ap i).attrs)]
  | significantChangeTeardown => [Attr.u16 GSCAN_ATTRIBUTE_SIGNIFICANT_CHANGE_FLUSH 1]
  | epno epnoParams =>
      [Attr.u8 GSCAN_ATTRIBUTE_EPNO_FLUSH 1,
        Attr.u8 GSCAN_ATTRIBUTE_EPNO_5G_RSSI_THR epnoParams.min5GHzRssi.toUInt32.toUInt8,
        Attr.u8 GSCAN_ATTRIBUTE_EPNO_2G_RSSI_THR epnoParams.min24GHzRssi.toUInt32.toUInt8,
        Attr.u16 GSCAN_ATTRIBUTE_EPNO_INIT_SCORE_MAX (u16OfInt epnoParams.initialScoreMax),
        Attr.u16 GSCAN_ATTRIBUTE_EPNO_CUR_CONN_BONUS
          (u16OfInt epnoParams.currentConnectionBonus),
        Attr.u16 GSCAN_ATTRIBUTE_EPNO_SAME_NETWORK_BONUS (u16OfInt epnoParams.sameNetworkBonus),
        Attr.u16 GSCAN_ATTRIBUTE_EPNO_SECURE_BONUS (u16OfInt epnoParams.secureBonus),
        Attr.u16 GSCAN_ATTRIBUTE_EPNO_5G_BONUS (u16OfInt epnoParams.band5GHzBonus),
        Attr.u8 GSCAN_ATTRIBUTE_EPNO_SSID_NUM epnoParams.numNetworks.toUInt32.toUInt8,
        Attr.nest GSCAN_ATTRIBUTE_EPNO_SSID_LIST (Attr.each epnoParams.numNetworks.toNatClampNeg
          fun i => Attr.nest i (epnoParams.networks i).attrs)]
  | epnoTeardown => [Attr.u8 GSCAN_ATTRIBUTE_EPNO_FLUSH 1]
  | rtt numRttParams rttParams =>
      [Attr.u8 RTT_ATTRIBUTE_TARGET_CNT numRttParams.toUInt8,
        Attr.nest RTT_ATTRIBUTE_TARGET_INFO
          (Attr.each numRttParams.toNat fun i => Attr.nest i (rttParams i).attrs)]
  | channelList mBand => [Attr.u32 WIFI_ATTRIBUTE_BAND mBand.toUInt32]
  | countryCode mCountryCode => [Attr.bytes WIFI_ATTRIBUTE_COUNTRY_CODE (mCountryCode ++ [0])]
  | rssiMonitor mMaxRssi mMinRssi enable =>
      [Attr.u32 WIFI_ATTRIBUTE_MAX_RSSI (if enable ≠ 0 then mMaxRssi.toInt32.toUInt32 else 0),
        Attr.u32 WIFI_ATTRIBUTE_MIN_RSSI (if enable ≠ 0 then mMinRssi.toInt32.toUInt32 else 0),
        Attr.u32 WIFI_ATTRIBUTE_RSSI_MONITOR_START enable.toUInt32]
  | keepAlive cmd =>
      [Attr.u8 MKEEP_ALIVE_ATTRIBUTE_ID cmd.mIndex,
        Attr.u16 MKEEP_ALIVE_ATTRIBUTE_IP_PKT_LEN cmd.mIpPktLen,
        Attr.bytes MKEEP_ALIVE_ATTRIBUTE_IP_PKT cmd.mIpPkt,
        Attr.addr MKEEP_ALIVE_ATTRIBUTE_SRC_MAC_ADDR cmd.mSrcMacAddr,
        Attr.addr MKEEP_ALIVE_ATTRIBUTE_DST_MAC_ADDR cmd.mDstMacAddr,
        Attr.u32 MKEEP_ALIVE_ATTRIBUTE_PERIOD_MSEC cmd.mPeriodMsec]
  | keepAliveStop mIndex => [Attr.u8 MKEEP_ALIVE_ATTRIBUTE_ID mIndex]

/-- The whole message. -/
def message (mIface : Int) (r : SetupRequest) : List AttrTree :=
  header mIface r.subcmd ++ [Attr.nest NL80211_ATTR_VENDOR_DATA r.attrs]

/-- Lists have entries; the channels of a bucket may be missing. -/
def Nonempty : SetupRequest → Prop
  | scan mParams => ∀ i < mParams.numBuckets.toNatClampNeg, 0 ≤ (mParams.buckets i).numChannels
  | hotlist mParams => 0 < mParams.numBssid
  | significantChange mParams => 0 < mParams.numBssid
  | epno epnoParams => 0 < epnoParams.numNetworks
  | rtt numRttParams _ => 0 < numRttParams
  | _ => True

/-- There are not more networks than the code checks for. -/
def Allowed : SetupRequest → Prop
  | epno epnoParams => epnoParams.numNetworks ≤ MAX_EPNO_NETWORKS
  | _ => True

end SetupRequest

/-! ## Building appends what is sent -/

variable {mIface : Int} {subcmd : UInt32} {body : Request} {attrs : List AttrTree} {n : Nat}

theorem appends_put (type : Nat) (bytes : List UInt8) :
    Appends (put type bytes) [Attr.bytes type bytes] := .put NO_ROOM (.ofNat type) bytes

theorem appends_putU8 (type : Nat) (value : UInt8) :
    Appends (putU8 type value) [Attr.u8 type value] := appends_put type _

theorem appends_putU16 (type : Nat) (value : UInt16) :
    Appends (putU16 type value) [Attr.u16 type value] := appends_put type _

theorem appends_putU32 (type : Nat) (value : UInt32) :
    Appends (putU32 type value) [Attr.u32 type value] := appends_put type _

theorem appends_putAddr (type : Nat) (value : MacAddr) :
    Appends (putAddr type value) [Attr.addr type value] := appends_put type _

theorem appends_inNest (type : Nat) (h : Appends body attrs) (hne : attrs ≠ []) :
    Appends (inNest type body) [Attr.nest type attrs] := h.nest (.ofNat type) hne

theorem appends_inNestOr (type : Nat) (h : Appends body attrs) :
    Appends (inNestOr type body) [Attr.nest type attrs] := h.nestOr OUT_OF_MEMORY (.ofNat type)

theorem appends_each {f : Nat → Request} {entry : Nat → AttrTree}
    (h : ∀ i < n, Appends (f i) [entry i]) : Appends (forIndices f 0 n) (Attr.each n entry) := by
  unfold Attr.each
  rw [List.range_eq_range']
  exact .loop fun i _ hi => h i (by omega)

theorem each_ne_nil {entry : Nat → AttrTree} (h : 0 < n) : Attr.each n entry ≠ [] := by
  intro hnil
  have hlength := congrArg List.length hnil
  rw [Attr.each, List.length_map, List.length_range] at hlength
  exact absurd hlength (Nat.pos_iff_ne_zero.mp h)

/-- A loop up to a positive number has a round. -/
theorem rounds_pos {count : Int32} (h : 0 < count) : 0 < count.toNatClampNeg := by
  have hint : 0 < count.toInt := Int32.lt_iff_toInt_lt.mp h
  rw [← Int32.toNat_toInt]
  omega

theorem appends_create (mIface : Int) (subcmd : UInt32) :
    Appends (create mIface GOOGLE_OUI.toUInt32 subcmd) (header mIface subcmd) := by
  have hiface : Appends (if mIface ≠ -1 then putU32 NL80211_ATTR_IFINDEX (.ofInt mIface)
      else pure ()) (if mIface ≠ -1 then [Attr.u32 NL80211_ATTR_IFINDEX (.ofInt mIface)]
        else []) := by
    by_cases h : mIface ≠ -1
    · rw [if_pos h, if_pos h]
      exact appends_putU32 _ _
    · rw [if_neg h, if_neg h]
      exact .nil
  exact (appends_putU32 _ _).seq ((appends_putU32 _ _).seq hiface)

theorem appends_vendorRequest (h : Appends body attrs) (hne : attrs ≠ []) :
    Appends (vendorRequest mIface subcmd body)
      (header mIface subcmd ++ [Attr.nest NL80211_ATTR_VENDOR_DATA attrs]) :=
  (appends_create mIface subcmd).seq (appends_inNest _ h hne)

theorem appends_putBucket (bucket : ScanBucketSpec) (h : 0 ≤ bucket.numChannels) :
    Appends (putBucket bucket) bucket.attrs := by
  have hchannels : Appends (if bucket.numChannels ≠ 0 then
        inNest GSCAN_ATTRIBUTE_BUCKET_CHANNELS
          (forIndices (fun j => putU32 j (bucket.channels j).toUInt32) 0
            bucket.numChannels.toNatClampNeg)
      else pure ())
      (if bucket.numChannels ≠ 0 then
        [Attr.nest GSCAN_ATTRIBUTE_BUCKET_CHANNELS (Attr.each bucket.numChannels.toNatClampNeg
          fun j => Attr.u32 j (bucket.channels j).toUInt32)]
      else []) := by
    by_cases hzero : bucket.numChannels ≠ 0
    · rw [if_pos hzero, if_pos hzero]
      refine appends_inNest _ (appends_each fun j _ => appends_putU32 _ _) (each_ne_nil ?_)
      exact rounds_pos (Int32.lt_of_le_of_ne h (Ne.symm hzero))
    · rw [if_neg hzero, if_neg hzero]
      exact .nil
  exact (appends_putU32 _ _).seq <| (appends_putU32 _ _).seq <| (appends_putU32 _ _).seq <|
    (appends_putU32 _ _).seq <| (appends_putU32 _ _).seq <| (appends_putU32 _ _).seq <|
    (appends_putU32 _ _).seq hchannels

theorem appends_putThreshold (ap : ApThresholdParam) : Appends (putThreshold ap) ap.attrs :=
  (appends_putAddr _ _).seq <| (appends_putU32 _ _).seq (appends_putU32 _ _)

theorem appends_putNetwork (network : EpnoNetwork) : Appends (putNetwork network) network.attrs :=
  (appends_put _ _).seq <| (appends_putU32 _ _).seq <| (appends_putU32 _ _).seq
    (appends_putU32 _ _)

theorem appends_putTarget (config : RttConfig) : Appends (putTarget config) config.attrs :=
  (appends_putAddr _ _).seq <| (appends_putU8 _ _).seq <| (appends_putU8 _ _).seq <|
    (appends_put _ _).seq <| (appends_putU32 _ _).seq <| (appends_putU32 _ _).seq <|
    (appends_putU32 _ _).seq <| (appends_putU32 _ _).seq <| (appends_putU32 _ _).seq <|
    (appends_putU32 _ _).seq <| (appends_putU8 _ _).seq <| (appends_putU8 _ _).seq <|
    (appends_putU8 _ _).seq (appends_putU8 _ _)

/-- **What is appended for a request**, when it is one that may be sent. -/
theorem SetupRequest.appends (r : SetupRequest) (hne : r.Nonempty) (hallowed : r.Allowed) :
    Appends (r.create mIface) (r.message mIface) := by
  cases r with
  | scan mParams =>
    have hbuckets := appends_each fun i hi =>
      appends_inNest i (appends_putBucket (mParams.buckets i) (hne i hi)) (List.cons_ne_nil _ _)
    exact appends_vendorRequest
      ((appends_putU32 _ _).seq ((appends_putU32 _ _).seq hbuckets)) (List.cons_ne_nil _ _)
  | scanConfig mParams =>
    exact appends_vendorRequest
      ((appends_putU32 _ _).seq ((appends_putU32 _ _).seq (appends_putU32 _ _)))
      (List.cons_ne_nil _ _)
  | feature enable =>
    exact appends_vendorRequest (appends_putU32 _ _) (List.cons_ne_nil _ _)
  | fullScan enable =>
    exact appends_vendorRequest (appends_putU32 _ _) (List.cons_ne_nil _ _)
  | scanResults num flush =>
    exact appends_vendorRequest ((appends_putU32 _ _).seq (appends_putU8 _ _))
      (List.cons_ne_nil _ _)
  | hotlist mParams =>
    have hlist := appends_inNest GSCAN_ATTRIBUTE_HOTLIST_BSSIDS
      (appends_each fun i _ => appends_inNestOr GSCAN_ATTRIBUTE_HOTLIST_ELEM
        (appends_putThreshold (mParams.ap i))) (each_ne_nil (rounds_pos hne))
    exact appends_vendorRequest
      ((appends_putU8 _ _).seq <| (appends_putU32 _ _).seq <| (appends_putU16 _ _).seq hlist)
      (List.cons_ne_nil _ _)
  | significantChange mParams =>
    have hlist := appends_inNest GSCAN_ATTRIBUTE_SIGNIFICANT_CHANGE_BSSIDS
      (appends_each fun i _ => appends_inNestOr i (appends_putThreshold (mParams.ap i)))
      (each_ne_nil (rounds_pos hne))
    exact appends_vendorRequest
      ((appends_putU8 _ _).seq <| (appends_putU16 _ _).seq <| (appends_putU16 _ _).seq <|
        (appends_putU16 _ _).seq <| (appends_putU16 _ _).seq hlist) (List.cons_ne_nil _ _)
  | significantChangeTeardown =>
    exact appends_vendorRequest (appends_putU16 _ _) (List.cons_ne_nil _ _)
  | epno epnoParams =>
    have hlist := appends_inNest GSCAN_ATTRIBUTE_EPNO_SSID_LIST
      (appends_each fun i _ => appends_inNestOr i (appends_putNetwork (epnoParams.networks i)))
      (each_ne_nil (rounds_pos hne))
    have hchecked : ¬ epnoParams.numNetworks > MAX_EPNO_NETWORKS := Int32.not_lt.mpr hallowed
    show Appends (ePNOCommand.createSetupRequest mIface epnoParams) _
    unfold ePNOCommand.createSetupRequest
    rw [if_neg hchecked]
    exact appends_vendorRequest
      ((appends_putU8 _ _).seq <| (appends_putU8 _ _).seq <| (appends_putU8 _ _).seq <|
        (appends_putU16 _ _).seq <| (appends_putU16 _ _).seq <| (appends_putU16 _ _).seq <|
        (appends_putU16 _ _).seq <| (appends_putU16 _ _).seq <| (appends_putU8 _ _).seq hlist)
      (List.cons_ne_nil _ _)
  | epnoTeardown => exact appends_vendorRequest (appends_putU8 _ _) (List.cons_ne_nil _ _)
  | rtt numRttParams rttParams =>
    have hpos : 0 < numRttParams.toNat := hne
    have hlist := appends_inNest RTT_ATTRIBUTE_TARGET_INFO
      (appends_each fun i _ => appends_inNestOr i (appends_putTarget (rttParams i)))
      (each_ne_nil hpos)
    exact appends_vendorRequest ((appends_putU8 _ _).seq hlist) (List.cons_ne_nil _ _)
  | channelList mBand => exact appends_vendorRequest (appends_putU32 _ _) (List.cons_ne_nil _ _)
  | countryCode mCountryCode =>
    exact appends_vendorRequest (appends_put _ _) (List.cons_ne_nil _ _)
  | rssiMonitor mMaxRssi mMinRssi enable =>
    exact appends_vendorRequest
      ((appends_putU32 _ _).seq ((appends_putU32 _ _).seq (appends_putU32 _ _)))
      (List.cons_ne_nil _ _)
  | keepAlive cmd =>
    exact appends_vendorRequest
      ((appends_putU8 _ _).seq <| (appends_putU16 _ _).seq <| (appends_put _ _).seq <|
        (appends_putAddr _ _).seq <| (appends_putAddr _ _).seq (appends_putU32 _ _))
      (List.cons_ne_nil _ _)
  | keepAliveStop mIndex =>
    exact appends_vendorRequest (appends_putU8 _ _) (List.cons_ne_nil _ _)

/-- More networks than the code allows are refused before anything is put. -/
theorem SetupRequest.not_allowed (r : SetupRequest) (hallowed : ¬ r.Allowed) (msg : AttrMsg) :
    r.create mIface msg = .error (.refused INVALID_ARGS) := by
  cases r with
  | epno epnoParams =>
    have hmany : epnoParams.numNetworks > MAX_EPNO_NETWORKS := Int32.not_le.mp hallowed
    show ePNOCommand.createSetupRequest mIface epnoParams msg = _
    unfold ePNOCommand.createSetupRequest
    rw [if_pos hmany]
    rfl
  | _ => exact absurd trivial hallowed

end Sloane.WifiHal.Requests
