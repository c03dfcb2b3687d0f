import Accounts.Text.Blank
import Accounts.Unicode.Runs
/-!
# Characters of international domain names

Before a domain name is looked at, each of its characters is kept, dropped,
replaced by other characters, or refused.  The table is that of the compatibility
processing for international domain names (Unicode 15), without the
rules for host names and with the characters of the older standard kept.  The
blank characters come first and need no table: those that have a width become a
space, the others of them are refused or kept.
-/

namespace Accounts.Domain

open Unicode (Runs Entries)

/-- What becomes of a character. -/
inductive Fate
  /-- It is kept. -/
  | keep
  /-- It is dropped. -/
  | drop
  /-- It is replaced. -/
  | replace (others : List Char)
  /-- It is refused. -/
  | refuse
deriving DecidableEq, Repr

/-- The runs of characters that are kept (0), dropped (1) and refused (2).  A
character with a replacement may lie in any run. -/
def fateRuns : Runs := Runs.unpack
  ["40a11cCa1bL1a1b18a3c5aGcIaAc8Ka2c3Ea19c1Ia2c3a1c1Na8cRa4c6aHcMa1c60a1c1Ga2c1Ra2c35aEc1Ra2c1H",
   "a2cFa1cSa2c1a1cBa5cVa9c2Aa1c51a1c8a2c2a2cMa1c7a1c1a3c4a2c9a2c2a2c4a8c1a8c4a2cPa2c3a1c6a4c2a2",
   "cMa1c7a1c2a1c2a1c2a2c1a1c5a4c2a2c3a3c1aAc1a9cHaAc3a1c9a1c3a1cMa1c7a1c2a1c5a2cAa1c3a1c3a2c1aF",
   "c4a2cCa7c7a1c3a1c8a2c2a2cMa1c7a1c2a1c5a2c9a2c2a2c3a7c3a7c5a2cIaAc2a1c6a3c3a1c4a3c2a1c1a1c2a3",
   "c2a3c3a3cCa4c5a3c3a1c4a2c1a6c1aEcLa5cDa1c3a1cNa1cGa2c9a1c3a1c4a7c2a1c3a2c1a2c4a2cAa7cMa1c3a1",
   "cNa1cAa1c5a2c9a1c3a1c4a7c2a6c2a1c4a2cAa1c3aCcDa1c3a1c1Ja1c3a1c6a4cGa2cQa1c3a1cIa3cOa1c9a1c1a",
   "2c7a3c1a4c6a1c1a1c8a6cAa2c3aCc1Qa4cTa15c2a1c1a1c5a1cOa1c1a1cNa2c5a1c1a1c7a1cAa4c2a10c28a1c14",
   "a4c17a1c14a1cFa1cDa15c50a1Gc4Fa2c78a1c4a2c7a1c1a1c4a2c19a1c4a2c11a1c4a2c7a1c1a1c4a2cFa1c1Pa1",
   "c4a2c23a2c10a3cQa6c2MaAcK0a1cSa3c2Pa7cMa9cOa9cKaCcDa1c3a1c2aCc1Ka2c18a2cAa6cAa6c6a1c4a3b1c1b",
   "Aa6c2Pa7c1Ba5c26aAcVa1cCa4cCa4c1a3c1Aa2c5aBc1Ca4cQa6cBa3c1Ua2c21a1cTa2cBa6cAa6cEa2cVa1Hc2Da3",
   "c1Fa1c3Ka8c1Sa3cFa3c1Sa1Nc8a8c1Ba5cGMaAc16aAc8a8cUa1Ic5a1cFa1cEa2c6a4cGa6c9aCc1b2a2cKa3c1a8c",
   "1Ga1b3c1b1Rc11aFc11aJc1Ea8c29a1c8a4cKNaPcBa50c1K9a2c10a1cATa5c1Da1c1a5c1a2c1Oa8c1aEcOa9c7a1c",
   "7a1c7a1c7a1c7a1c7a1c7a1c7a1c3Ua12cQa1c2Pa8Dc1Va1c2Ma2c37a5c1Ba30c2KaCc1Fa19cBQa1UcS4Da3c1Na9",
   "cASaLc5Na8c6Ba6c1a1c1a1c5aSc1Na3cAa6c1Oa8c26a8cCa6c3KaBcUa3c2Ea1cBa4c11a1c1Na9cEa2cAa2c37aOc",
   "SaAc6a2c6a2c6a9c7a1c7a1c1Sa2Kc1Ea2cAa6cAT4aCcNa4c1Ha8GIc30a5GcPa3RcHaBRc2Ia1Vc1a1Dc3aIbEcGaL",
   "cDa11c2a4Ac1b80cCa1cQa1cJa1c2a1cFa2cEa12c3Ra5c3a4c1Da3c2Oa1cDa3c1a1Fc1Ea42cTa3c1HaFcSa4c14a9",
   "cUa5c1Ba5cUa1c15a4cEa2Ic3Ma2cAa1Ec14a4c18a8c1KaBcCaScBa1cFa1c7a1c2a23c9Na9cMaAc8aOc6a3Qc6a2c",
   "1a1c1Ca1c2a3c1a2cNa1c28a8c9a1GcJa1c2a5c11a3cRa5c1a20c1Oa4cKa2c1Ia1c2a5c8a1c3a1cTa2c3a4cAa7c9",
   "a7c20a10c17a4cCa9c1Ma3cTa2cRa5cQa7c4aCc7a2Gc29a3Nc1Ja7c1Ea8cAa96cVa1c1Aa1c3a2c2a2Bc1Ba8c1AaM",
   "cQa16cSaKcNa9c2Ea4c14a9c1Ua1c5aDcPa7cAa6c1La1cIa8c17a9c30a1cKaBcIa1c1Fa1Uc7a1c1a1c4a1cFa1cBa",
   "6c1Ra5cAa6c4a1c8a2c2a2cMa1c7a1c2a1c5a1cAa2c2a2c3a2c1a6c1a5c7a2c7a3c5a4Bc2Sa1c5aUc28a8cAa56c1",
   "Ma2c16a12c25aBcAa6cDaJc1Qa6cAa1McRa2cFa4cNa5Pc1Sa44c1JaCc8a2c1a2c8a1c2a1cUa1c2a2cCa9cAa26c8a",
   "2c1Ea2cBaRc28a8c2JaDc29a7cAa7Mc9a1c1Da1cEaAcTa3c10a2cMa1cEa29c7a1c2a1c1Ca3c1a1c2a1c9a8cAa6c6",
   "a1c2a1c15a1c2a1c6a7cAa9McPa7cHa1c19a3cSa2Mc1aFc1IaDcSRa36c3Fa1c5aBc64a2ICc33aDc11GaGcMa3TAcI",
   "7a8DPcHPa7cVa1cAa4c2Ha1cAa6cUa2c6aAc26aAcAa1c7a1cLa5cJaMGc1Ra35c2Ba4c1Pa7cHa20c5aBc2aEc5VOa8",
   "c16Ma1Ac9a8N7c4a1c7a1c2a1c93aFc1aTc3a2c1aEc4a8cCCa284c3Ba5cDa3c9a7cAa2c4a4b4ISc1Ea2cNa9c3Ka1",
   "Sc7MaAc17a2c2Aa8c3GaLc26a3QcKaCcKaCc2Na9cPa147cKCaFc5a1cFa12GcVa6c6a6Lc7a1cHa2c7a1c2a1c5a34c",
   "1a3Gc1Da3cEa2cAa4c2aA0cVaHc1Qa5c1aEGc1AaN6c7a1c4a1c2a1cFa1c65a2cGa2Bc1Aa4cAa4c2aOHc24a2Cc1Ta",
   "DIc2a8Ec1Ca4c34aCcFa2cFa1cFa1c15aLc53a1OcTa2Tc6a4QcUOa4cHa3cDa3c3Na4c2Va6cCa4c1aFcCa4c1Oa8cA",
   "a6c18a8cUa2c2a2EcAKaCcEa2cDa3c9a7c1Ea1c7a8cEa4c9a7c9a7c4Ja1c1Na11Lc19N0a10c41Qa6c6Ua2c5K2aEc",
   "79Ha50Vc4QBa5c430aLNAGc7Gb5VGGc"]

/-- The replacements of characters. -/
def replacements : Entries := Entries.unpack
  ["21k31v1k32v1k33v1k34v1k35v1k36v1k37v1k38v1k39v1k3Av1k3Bv1k3Cv1k3Dv1k3Ev1k3Fv1k3Gv1k3Hv1k3Iv1",
   "k3Jv1k3Kv1k3Lv1k3Mv1k3Nv1k3Ov1k3Pv1k3Qv26k10v8k10vO8v2k31v5k10vO4v3k1Iv1k1Jv1k10vO1v1kTSv3k1",
   "0vP7v1k1Hv1k3Fv2k1Hv824v1Kv1k1Hv824v1Iv1k1Jv824v1Kv2k70v1k71v1k72v1k73v1k74v1k75v1k76v1k77v1",
   "k78v1k79v1k7Av1k7Bv1k7Cv1k7Dv1k7Ev1k7Fv1k7Gv1k7Hv1k7Iv1k7Jv1k7Kv1k7Lv1k7Mv2k7Ov1k7Pv1k7Qv1k7",
   "Rv1k7Sv1k7Tv1k7Uv12k81v2k83v2k85v2k87v2k89v2k8Bv2k8Dv2k8Fv2k8Hv2k8Jv2k8Lv2k8Nv2k8Pv2k8Rv2k8T",
   "v2k8Vv2k91v2k93v2k95v2k97v2k99v2k9Bv2k9Dv2k9Fv2k39vO7v2k39v3Av1k39v3Av1k9Lv2k9Nv3k9Qv2k9Sv2k",
   "9Uv2k3Cv5Nv1k3Cv5Nv1kA2v2kA4v2kA6v2kA8v2kLSv3Ev1kABv2kADv2kAFv2kAHv2kAJv2kALv2kANv2kAPv2kARv",
   "2kATv2kAVv2kB1v2kB3v2kB5v2kB7v2kB9v2kBBv2kBDv2kBFv2kBHv2kBJv2kBLv2kBNv2k7Vv1kBQv2kBSv2kBUv2k",
   "3Jv2kIJv1kC3v2kC5v2kIKv1kC8v2kIMv1kINv1kCCv3kETv1kIPv1kIRv1kCIv2kJ0v1kJ3v2kJ9v1kJ8v1kCPv4kJF",
   "v1kJIv2kJLv1kD1v2kD3v2kD5v2kK0v1kD8v2kK3v3kDDv2kK8v1kDGv2kKAv1kKBv1kDKv2kDMv2kKIv1kDPv4kDTv8",
   "k34vBUv1k34vBUv1k34vBUv1k3Cv3Av1k3Cv3Av1k3Cv3Av1k3Ev3Av1k3Ev3Av1k3Ev3Av1kEEv2kEGv2kEIv2kEKv2",
   "kEMv2kEOv2kEQv2kESv3kEVv2kF1v2kF3v2kF5v2kF7v2kF9v2kFBv2kFDv2kFFv3k34v3Qv1k34v3Qv1k34v3Qv1kFL",
   "v2kCLv1kDVv1kFPv2kFRv2kFTv2kFVv2kG1v2kG3v2kG5v2kG7v2kG9v2kGBv2kGDv2kGFv2kGHv2kGJv2kGLv2kGNv2",
   "kGPv2kGRv2kGTv2kGVv2kCUv2kH3v2kH5v2kH7v2kH9v2kHBv2kHDv2kHFv2kHHv2kHJv8kB35v1kHSv2kCQv1kB36v3",
   "kI2v2kC0v1kK9v1kKCv1kI7v2kI9v2kIBv2kIDv2kIFv32k38v1kJ6v1k3Av1k3Iv1kJPv1kJRv1kK1v1k3Nv1k3Pv10",
   "k10vO6v1k10vO7v1k10vOAv1k10vP8v1k10vO3v1k10vOBv3kJ3v1k3Cv1k3Jv1k3Ov1kKLv2SkO0v1kO1v2kOJv1kO8",
   "vO1v1kTPv1BkRHv2kRJv2kLPv2kRNv4k10vTPv4k1Rv1kVJv5k10vO1v1k10vO8vO1v1kTCv1k5Nv1kTDv1kTEv1kTFv",
   "2kUCv2kUDv1kUEv2kTHv1kTIv1kTJv1kTKv1kTLv1kTMv1kTNv1kTOv1kTPv1kTQv1kTRv1kTSv1kTTv1kTUv1kTVv1k",
   "U0v1kU1v2kU3v1kU4v1kU5v1kU6v1kU7v1kU8v1kU9v1kUAv1kUBv14kUNv1kTIv1kTOv1kU5v1kUDv1kUBv1kU6v1kU",
   "0v2kUPv2kURv2kUTv2kUVv2kV1v2kV3v2kV5v2kV7v2kV9v2kVBv2kVDv2kVFv2kTQv1kU1v1kU3v2kTOv1kTLv2kVOv",
   "2kU3v1kVRv3kRRv1kRSv1kRTv1k12Gv1k12Hv1k12Iv1k12Jv1k12Kv1k12Lv1k12Mv1k12Nv1k12Ov1k12Pv1k12Qv1",
   "k12Rv1k12Sv1k12Tv1k12Uv1k12Vv1k11Gv1k11Hv1k11Iv1k11Jv1k11Kv1k11Lv1k11Mv1k11Nv1k11Ov1k11Pv1k1",
   "1Qv1k11Rv1k11Sv1k11Tv1k11Uv1k11Vv1k120v1k121v1k122v1k123v1k124v1k125v1k126v1k127v1k128v1k129",
   "v1k12Av1k12Bv1k12Cv1k12Dv1k12Ev1k12Fv1Hk131v2k133v2k135v2k137v2k139v2k13Bv2k13Dv2k13Fv2k13Hv",
   "2k13Jv2k13Lv2k13Nv2k13Pv2k13Rv2k13Tv2k13Vv2k141vAk14Bv2k14Dv2k14Fv2k14Hv2k14Jv2k14Lv2k14Nv2k",
   "14Pv2k14Rv2k14Tv2k14Vv2k151v2k153v2k155v2k157v2k159v2k15Bv2k15Dv2k15Fv2k15Hv2k15Jv2k15Lv2k15",
   "Nv2k15Pv2k15Rv2k15Tv2k15Vv3k162v2k164v2k166v2k168v2k16Av2k16Cv2k16Ev3k16Hv2k16Jv2k16Lv2k16Nv",
   "2k16Pv2k16Rv2k16Tv2k16Vv2k171v2k173v2k175v2k177v2k179v2k17Bv2k17Dv2k17Fv2k17Hv2k17Jv2k17Lv2k",
   "17Nv2k17Pv2k17Rv2k17Tv2k17Vv2k181v2k183v2k185v2k187v2k189v2k18Bv2k18Dv2k18Fv2k18Hv2k18Jv2k18",
   "Lv2k18Nv2k18Pv2k18Rv2k18Tv2k18Vv2k191v2k193v2k195v2k197v2k199v2k19Bv2k19Dv2k19Fv3k1B1v1k1B2v",
   "1k1B3v1k1B4v1k1B5v1k1B6v1k1B7v1k1B8v1k1B9v1k1BAv1k1BBv1k1BCv1k1BDv1k1BEv1k1BFv1k1BGv1k1BHv1k",
   "1BIv1k1BJv1k1BKv1k1BLv1k1BMv1k1BNv1k1BOv1k1BPv1k1BQv1k1BRv1k1BSv1k1BTv1k1BUv1k1BVv1k1C0v1k1C",
   "1v1k1C2v1k1C3v1k1C4v1k1C5v1k1C6v1Hk1B5v1C2v7Ek1H7v1JKv1k1I8v1JKv1k1M7v1JKv1k1IAv1JKvN0k28Lv2",
   "9Sv1k28Mv29Sv1k28Nv29Sv1k28Sv29Sv1k291v29Sv1k292v29Sv1k29Bv29Sv1k29Fv29Sv3Tk2D1v2DSv1k2D2v2D",
   "Sv2k2DFv2DSv2Kk2HIv2HSv3k2HOv2HSv13k2GMv2HSv1k2GNv2HSv1k2GSv2HSv3k2HBv2HSv7Uk2P1v2PSv1k2P2v2",
   "PSvMMk3IDv3HIv40k3MDv3LIv19k3LBv3KPv1k3LBv3L1v1Fk3OBv1Nk3Q2v3TNvAk3QCv3TNv5k3QHv3TNv5k3QMv3T",
   "Nv5k3QRv3TNvDk3Q0v3TLvAk3RHv3RIv2k3RHv3RKv1k3TIv3S0v1k3TIv3RHv3S0v1k3TJv3S0v1k3TJv3RHv3S0v8k",
   "3RHv3S0vIk3SIv3TNvAk3SSv3TNv5k3T1v3TNv5k3T6v3TNv5k3TBv3TNvDk3SGv3TLv8EkB97v6kB9Dv1Fk46SvNSk4",
   "VGv1k4VHv1k4VIv1k4VJv1k4VKv1k4VLv243k11Iv1k11Kv1k11Uv1k121v1k122v1k122v1k12Av1k133v1k19IBv8k",
   "46Gv1k46Hv1k46Iv1k46Jv1k46Kv1k46Lv1k46Mv1k46Nv1k46Ov1k46Pv1k46Qv1k46Rv1k46Sv1k46Tv1k46Uv1k46",
   "Vv1k470v1k471v1k472v1k473v1k474v1k475v1k476v1k477v1k478v1k479v1k47Av1k47Bv1k47Cv1k47Dv1k47Ev",
   "1k47Fv1k47Gv1k47Hv1k47Iv1k47Jv1k47Kv1k47Lv1k47Mv1k47Nv1k47Ov1k47Pv1k47Qv3k47Tv1k47Uv1k47Vv3D",
   "k31v1k76v1k32v2k34v1k35v1kETv1k37v1k38v1k39v1k3Av1k3Bv1k3Cv1k3Dv1k3Ev2k3Fv1kH3v1k3Gv1k3Iv1k3",
   "Kv1k3Lv1k3Nv1k31v1kIGv1kIHv1k782v1k32v1k34v1k35v1kIPv1kIRv1kISv1k37v2k3Bv1k3Dv1kABv1k3Fv1kIK",
   "v1k78Mv1k78Nv1k3Gv1k3Kv1k3Lv1k78Tv1kJFv1k3Mv1k795v1kTIv1kTJv1kTKv1kU6v1kU7v1k39v1k3Iv1k3Lv1k",
   "3Mv1kTIv1kTJv1kU1v1kU6v1kU7vEk11Tv13kIIv1k33v1kILv1k7Gv1kISv1k36v1kIVv1kJ1v1kJ5v1kJ8v1kJ9v1k",
   "JAv1k7BRv1kKTv1kJDv1k7C5v1kKVv1kJHv1kJGv1kJIv1kJJv1kJKv1kJLv1kJOv1kK2v1kK3v1kDBv1kK9v1kKAv1k",
   "78Sv1kKBv1kKCv1k3Qv1kKGv1kKHv1kKIv1kTOv21k7G1v2k7G3v2k7G5v2k7G7v2k7G9v2k7GBv2k7GDv2k7GFv2k7G",
   "Hv2k7GJv2k7GLv2k7GNv2k7GPv2k7GRv2k7GTv2k7GVv2k7H1v2k7H3v2k7H5v2k7H7v2k7H9v2k7HBv2k7HDv2k7HFv",
   "2k7HHv2k7HJv2k7HLv2k7HNv2k7HPv2k7HRv2k7HTv2k7HVv2k7I1v2k7I3v2k7I5v2k7I7v2k7I9v2k7IBv2k7IDv2k",
   "7IFv2k7IHv2k7IJv2k7ILv2k7INv2k7IPv2k7IRv2k7ITv2k7IVv2k7J1v2k7J3v2k7J5v2k7J7v2k7J9v2k7JBv2k7J",
   "Dv2k7JFv2k7JHv2k7JJv2k7JLv2k7JNv2k7JPv2k7JRv2k7JTv2k7JVv2k7K1v2k7K3v2k7K5v2k7K7v2k7K9v2k7KBv",
   "2k7KDv2k7KFv2k7KHv2k7KJv2k7KLv6k31vLUv1k7J1v3k3Jv3Jv2k7L1v2k7L3v2k7L5v2k7L7v2k7L9v2k7LBv2k7L",
   "Dv2k7LFv2k7LHv2k7LJv2k7LLv2k7LNv2k7LPv2k7LRv2k7LTv2k7LVv2k7M1v2k7M3v2k7M5v2k7M7v2k7M9v2k7MBv",
   "2k7MDv2k7MFv2k7MHv2k7MJv2k7MLv2k7MNv2k7MPv2k7MRv2k7MTv2k7MVv2k7N1v2k7N3v2k7N5v2k7N7v2k7N9v2k",
   "7NBv2k7NDv2k7NFv2k7NHv2k7NJv2k7NLv2k7NNv2k7NPv2k7NRv2k7NTv2k7NVvAk7O0v1k7O1v1k7O2v1k7O3v1k7O",
   "4v1k7O5v1k7O6v1k7O7v9k7OGv1k7OHv1k7OIv1k7OJv1k7OKv1k7OLvBk7P0v1k7P1v1k7P2v1k7P3v1k7P4v1k7P5v",
   "1k7P6v1k7P7v9k7PGv1k7PHv1k7PIv1k7PJv1k7PKv1k7PLv1k7PMv1k7PNv9k7Q0v1k7Q1v1k7Q2v1k7Q3v1k7Q4v1k",
   "7Q5vCk7QHv2k7QJv2k7QLv2k7QNv9k7R0v1k7R1v1k7R2v1k7R3v1k7R4v1k7R5v1k7R6v1k7R7v2kTCv2kTDv2kTEv2",
   "kTFv2kUCv2kUDv2kUEv3k7O0vTPv1k7O1vTPv1k7O2vTPv1k7O3vTPv1k7O4vTPv1k7O5vTPv1k7O6vTPv1k7O7vTPv1",
   "k7O0vTPv1k7O1vTPv1k7O2vTPv1k7O3vTPv1k7O4vTPv1k7O5vTPv1k7O6vTPv1k7O7vTPv1k7P0vTPv1k7P1vTPv1k7",
   "P2vTPv1k7P3vTPv1k7P4vTPv1k7P5vTPv1k7P6vTPv1k7P7vTPv1k7P0vTPv1k7P1vTPv1k7P2vTPv1k7P3vTPv1k7P4",
   "vTPv1k7P5vTPv1k7P6vTPv1k7P7vTPv1k7R0vTPv1k7R1vTPv1k7R2vTPv1k7R3vTPv1k7R4vTPv1k7R5vTPv1k7R6vT",
   "Pv1k7R7vTPv1k7R0vTPv1k7R1vTPv1k7R2vTPv1k7R3vTPv1k7R4vTPv1k7R5vTPv1k7R6vTPv1k7R7vTPv3k7RGvTPv",
   "1kTHvTPv1kTCvTPv3k7TMvTPv1k7TGv1k7THv1k7RGv1kTCv1kTHvTPv1k10vOJv1kTPv1k10vOJv1k10vQ2v1k10vO8",
   "vQ2v1k7RKvTPv1kTNvTPv1kTEvTPv3k7U6vTPv1k7RIv1kTDv1k7RKv1kTEv1kTNvTPv1k10vOJvO0v1k10vOJvO1v1k",
   "10vOJvQ2v4kSGv5k7UGv1k7UHv1k7RMv1kTFv2k10vOKvO0v1k10vOKvO1v1k10vOKvQ2v4kTGv5k7V0v1k7V1v1k7RQ",
   "v1kUDv1k7V5v1k10vO8vO0v1k10vO8vO1v1k30v3k7RSvTPv1kU9vTPv1kUEvTPv3k7VMvTPv1k7ROv1kUCv1k7RSv1k",
   "UEv1kU9vTPv1k10vO1v1k10vOKv2k10v1k10v1k10v1k10v1k10v1k10v1k10v1k10v1k10v1k10v1k10v7k80Gv6k10",
   "vPJvOk10v4k81Iv81Iv1k81Iv81Iv81Iv2k81Lv81Lv1k81Lv81Lv81Lv5k11v11v2k10vO5v9k1Vv1Vv1k1Vv11v1k1",
   "1v1VvEk81Iv81Iv81Iv81Iv8k10vHk1Gv1k39v3k1Kv1k1Lv1k1Mv1k1Nv1k1Ov1k1Pv1k1Bv1k8GIv1k1Tv1k18v1k1",
   "9v1k3Ev1k1Gv1k1Hv1k1Iv1k1Jv1k1Kv1k1Lv1k1Mv1k1Nv1k1Ov1k1Pv1k1Bv1k8GIv1k1Tv1k18v1k19v2k31v1k35",
   "v1k3Fv1k3Ov1kIPv1k38v1k3Bv1k3Cv1k3Dv1k3Ev1k3Gv1k3Jv1k3KvCk3Iv3Jv2Ok31v1Fv33v1k31v1Fv3Jv1k33v",
   "1k5Gv33v2k33v1Fv3Fv1k33v1Fv3Lv1kIRv2k5Gv36v1k37v1k38v1k38v1k38v1k38v1k97v1k39v1k39v1k3Cv1k3C",
   "v2k3Ev1k3Ev3Fv3k3Gv1k3Hv1k3Iv1k3Iv1k3Iv3k3Jv3Dv1k3Kv35v3Cv1k3Kv3Dv2k3Qv2kU9v2k3Qv2k3Bv1k75v1",
   "k32v1k33v2k35v1k35v1k36v2k3Dv1k3Fv1k1EGv1k1EHv1k1EIv1k1EJv1k39v2k36v31v3Ov1kU0v1kTJv1kTJv1kU",
   "0v1k8GHv5k34v1k34v1k35v1k39v1k3Av7k1Hv824v1Nv1k1Hv824v1Pv1k1Hv824v1Hv1Gv1k1Hv824v1Jv1k1Iv824",
   "v1Jv1k1Hv824v1Lv1k1Iv824v1Lv1k1Jv824v1Lv1k1Kv824v1Lv1k1Hv824v1Mv1k1Lv824v1Mv1k1Hv824v1Ov1k1J",
   "v824v1Ov1k1Lv824v1Ov1k1Nv824v1Ov1k1Hv824v1k39v1k39v39v1k39v39v39v1k39v3Mv1k3Mv1k3Mv39v1k3Mv3",
   "9v39v1k3Mv39v39v39v1k39v3Ov1k3Ov1k3Ov39v1k3Ov39v39v1k3Cv1k33v1k34v1k3Dv1k39v1k39v39v1k39v39v",
   "39v1k39v3Mv1k3Mv1k3Mv39v1k3Mv39v39v1k3Mv39v39v39v1k39v3Ov1k3Ov1k3Ov39v1k3Ov39v39v1k3Cv1k33v1",
   "k34v1k3DvAk1Gv824v1Jv53k8HBv8HBv1k8HBv8HBv8HBv2k8HEv8HEv1k8HEv8HEv8HEv7PkC08v1kC09v9Mk1Hv1k1",
   "Iv1k1Jv1k1Kv1k1Lv1k1Mv1k1Nv1k1Ov1k1Pv1k1Hv1Gv1k1Hv1Hv1k1Hv1Iv1k1Hv1Jv1k1Hv1Kv1k1Hv1Lv1k1Hv1M",
   "v1k1Hv1Nv1k1Hv1Ov1k1Hv1Pv1k1Iv1Gv1k18v1Hv19v1k18v1Iv19v1k18v1Jv19v1k18v1Kv19v1k18v1Lv19v1k18",
   "v1Mv19v1k18v1Nv19v1k18v1Ov19v1k18v1Pv19v1k18v1Hv1Gv19v1k18v1Hv1Hv19v1k18v1Hv1Iv19v1k18v1Hv1J",
   "v19v1k18v1Hv1Kv19v1k18v1Hv1Lv19v1k18v1Hv1Mv19v1k18v1Hv1Nv19v1k18v1Hv1Ov19v1k18v1Hv1Pv19v1k18",
   "v1Iv1Gv19vLk18v31v19v1k18v32v19v1k18v33v19v1k18v34v19v1k18v35v19v1k18v36v19v1k18v37v19v1k18v",
   "38v19v1k18v39v19v1k18v3Av19v1k18v3Bv19v1k18v3Cv19v1k18v3Dv19v1k18v3Ev19v1k18v3Fv19v1k18v3Gv1",
   "9v1k18v3Hv19v1k18v3Iv19v1k18v3Jv19v1k18v3Kv19v1k18v3Lv19v1k18v3Mv19v1k18v3Nv19v1k18v3Ov19v1k",
   "18v3Pv19v1k18v3Qv19v1k31v1k32v1k33v1k34v1k35v1k36v1k37v1k38v1k39v1k3Av1k3Bv1k3Cv1k3Dv1k3Ev1k",
   "3Fv1k3Gv1k3Hv1k3Iv1k3Jv1k3Kv1k3Lv1k3Mv1k3Nv1k3Ov1k3Pv1k3Qv1k31v1k32v1k33v1k34v1k35v1k36v1k37",
   "v1k38v1k39v1k3Av1k3Bv1k3Cv1k3Dv1k3Ev1k3Fv1k3Gv1k3Hv1k3Iv1k3Jv1k3Kv1k3Lv1k3Mv1k3Nv1k3Ov1k3Pv1",
   "k3Qv1k1Gv192k8HBv8HBv8HBv8HBv38k1Qv1Qv1Tv1k1Tv1Tv1k1Tv1Tv1Tv36kAMTvPOv94kB1Gv1kB1Hv1kB1Iv1kB",
   "1Jv1kB1Kv1kB1Lv1kB1Mv1kB1Nv1kB1Ov1kB1Pv1kB1Qv1kB1Rv1kB1Sv1kB1Tv1kB1Uv1kB1Vv1kB20v1kB21v1kB22",
   "v1kB23v1kB24v1kB25v1kB26v1kB27v1kB28v1kB29v1kB2Av1kB2Bv1kB2Cv1kB2Dv1kB2Ev1kB2Fv1kB2Gv1kB2Hv1",
   "kB2Iv1kB2Jv1kB2Kv1kB2Lv1kB2Mv1kB2Nv1kB2Ov1kB2Pv1kB2Qv1kB2Rv1kB2Sv1kB2Tv1kB2Uv1kB2Vv1HkB31v2k",
   "JBv1k7BTv1kJTv3kB38v2kB3Av2kB3Cv2kIHv1kJHv1kIGv1kIIv2kB3Jv3kB3Mv7k3Av1k3Mv1kHVv1kI0v1kB41v2k",
   "B43v2kB45v2kB47v2kB49v2kB4Bv2kB4Dv2kB4Fv2kB4Hv2kB4Jv2kB4Lv2kB4Nv2kB4Pv2kB4Rv2kB4Tv2kB4Vv2kB5",
   "1v2kB53v2kB55v2kB57v2kB59v2kB5Bv2kB5Dv2kB5Fv2kB5Hv2kB5Jv2kB5Lv2kB5Nv2kB5Pv2kB5Rv2kB5Tv2kB5Vv",
   "2kB61v2kB63v2kB65v2kB67v2kB69v2kB6Bv2kB6Dv2kB6Fv2kB6Hv2kB6Jv2kB6Lv2kB6Nv2kB6Pv2kB6Rv2kB6Tv2k",
   "B6Vv2kB71v2kB73v9kB7Cv2kB7Ev5kB7Jv3TkBB1v9GkQUDv2Kk17SVvDkJG0v1kJH8v1kJHMv1kJHVv1kJIPv1kJK5v",
   "1kJKCv1kJL0v1kJLQv1kK9Vv1kKB5v1kKBBv1kKC2v1kKCMv1kKDBv1kKF0v1kKFLv1kKG0v1kKKRv1kKNPv1kKOLv1k",
   "KOQv1kKPOv1kKQ1v1kKQSv1kKR9v1kKS2v1kKTMv1kKU8v1kKV3v1kLMNv1kLOVv1kM7Bv1kM82v1kM8Av1kM8Lv1kM9",
   "7v1kMBJv1kMQGv1kMS0v1kMVOv1kN0Fv1kN12v1kN1Ov1kN3Ev1kN3Hv1kNERv1kNF5v1kNFHv1kNFUv1kNJIv1kNJQv",
   "1kNJVv1kNNKv1kNNUv1kNOBv1kNOJv1kNQGv1kNR1v1kNRJv1kNU3v1kOG8v1kOHMv1kOIBv1kP9Fv1kP9Kv1kPC7v1k",
   "PCNv1kPD4v1kPDPv1kPF0v1kPF5v1kPNGv1kPO8v1kPP8v1kQP0v1kQR2v1kQRPv1kQTJv1kQUBv1kQUKv1kQURv1kR0",
   "Fv1kR0Kv1kR1Kv1kS3Bv1kSHAv1kSHMv1kSHRv1kSHVv1kSI7v1kSIPv1kSIRv1kSLCv1kSS4v1kSS9v1kT6Sv1kT76v",
   "1kT8Ov1kT8Vv1kT98v1kT9Gv1kTCBv1kTCIv1kTJMv1kTJTv1kTLEv1kTLVv1kTNEv1kTURv1kTV2v1kTVJv1kU9Qv1k",
   "UDOv1kUDUv1kUJKv1kUMBv1kUNPv1kV3Jv1kV7Ov1kVPMv1kVQHv1kVSAv1kVTTv1k1001v1k100Cv1k100Iv1k101Jv",
   "1k103Vv1k1049v1k10F3v1k10FAv1k10FJv1k10FSv1k10GCv1k10GRv1k10GVv1k10JEv1k10JIv1k10JOv1k11IDv1",
   "k11JBv1k1220v1k122Cv1k1233v1k12BUv1k12CBv1k12EIv1k12G0v1k131Nv1k1326v1k132Lv1k133Ov1k134Tv1k",
   "13B4v1k13BGv1k13DJv1k13LBv1k13MAv1k13SRv1k13TGv1k13TLv1k144Hv1k14A9v1k14E6v1k14ECv1k14EHv1k1",
   "5BNv1k15C0v1k15GSv1k15LMv1k15LPv1k15N8v1k15QHv1k15QUv1k15R2v1k15R9v1k15UBv1k15VDv1k15VJv1k16",
   "01v1k1658v1k166Rv1k166Vv1k16CMv1k16CPv1k16DCv1k16L8v1k16MOv1k16MVv1k16P5v1k16PFv1k16PIv1k16P",
   "Sv1k16QQv1k1775v1k17JLv1k17JVv1k17L5v1k17LRv1k17M3v1k17MDv1k17MHv1k17NPv1k17NTv1k17OEv1k17OJ",
   "v1k17P0v1k17PRv1k17QAv1k17QIv1k17SDv1k17SSv1k17T0v1Bk10v2k1Ev1KkC0Iv2kKQ1v1kKQ4v1kKQ5v31k10v",
   "C4Pv1k10vC4Qv3kC48vC4Av30kC5JvC68v1Ik480v1k481v1k4DAv1k482v1k4DCv1k4DDv1k483v1k484v1k485v1k4",
   "DGv1k4DHv1k4DIv1k4DJv1k4DKv1k4DLv1k48Qv1k486v1k487v1k488v1k491v1k489v1k48Av1k48Bv1k48Cv1k48D",
   "v1k48Ev1k48Fv1k48Gv1k48Hv1k48Iv1k4B1v1k4B2v1k4B3v1k4B4v1k4B5v1k4B6v1k4B7v1k4B8v1k4B9v1k4BAv1",
   "k4BBv1k4BCv1k4BDv1k4BEv1k4BFv1k4BGv1k4BHv1k4BIv1k4BJv1k4BKv1k4BLv2k48Kv1k48Lv1k4E7v1k4E8v1k4",
   "ECv1k4EEv1k4EJv1k4ENv1k4EPv1k48Sv1k4ETv1k4EVv1k48Tv1k48Uv1k490v1k492v1k493v1k497v1k499v1k49B",
   "v1k49Cv1k49Dv1k49Ev1k49Fv1k49Iv1k49Mv1k4A0v1k4A7v1k4ACv1k4FHv1k4FIv1k4ANv1k4AOv1k4APv1k4C4v1",
   "k4C5v1k4C8v1k4CHv1k4CIv1k4CKv1k4CUv1k4D1v4kJG0v1kJKCv1kJG9v1kLMRv1kJGAv1kJHDv1kJGBv1kT9Iv1kJ",
   "IPv1kJGPv1kJG1v1kM99v1kLPGv1kJLQv31k18v480v19v1k18v482v19v1k18v483v19v1k18v485v19v1k18v486v1",
   "9v1k18v487v19v1k18v489v19v1k18v48Bv19v1k18v48Cv19v1k18v48Ev19v1k18v48Fv19v1k18v48Gv19v1k18v4",
   "8Hv19v1k18v48Iv19v1k18v1B00v19v1k18v1C4Ov19v1k18v1CN4v19v1k18v1DRSv19v1k18v1EE8v19v1k18v1F0K",
   "v19v1k18v1G5Cv19v1k18v1HA4v19v1k18v1HSGv19v1k18v1J18v19v1k18v1JJKv19v1k18v1K60v19v1k18v1KOCv",
   "19v1k18v1LAOv19v1k18v1I7Sv19v1k18v1HH4v1I04v19v1k18v1HH4v1LM4v19v2k18vJG0v19v1k18vJKCv19v1k1",
   "8vJG9v19v1k18vLMRv19v1k18vJKKv19v1k18vKBDv19v1k18vJG3v19v1k18vKBBv19v1k18vJITv19v1k18vKQ1v19",
   "v1k18vPO8v19v1k18vS3Bv19v1k18vR1Kv19v1k18vPP8v19v1k18v14EHv19v1k18vLOVv19v1k18vPF5v19v1k18vQ",
   "1Av19v1k18vPO9v19v1k18vU9Uv19v1k18vL0Dv19v1k18vSJPv19v1k18v1351v19v1k18vUATv19v1k18vKLKv19v1",
   "k18vJN3v19v1k18vL3Sv19v1k18vMR6v19v1k18vTN3v19v1k18vJO1v19v1k18v1367v19v1k18vKQKv19v1k18vUBD",
   "v19v1k18vJOHv19v1k18v10FAv19v1k18v10FJv19v1kLAFv1kNJSv1kPC7v1kUSFv9k3Gv3Kv35v1k1Iv1Hv1k1Iv1I",
   "v1k1Iv1Jv1k1Iv1Kv1k1Iv1Lv1k1Iv1Mv1k1Iv1Nv1k1Iv1Ov1k1Iv1Pv1k1Jv1Gv1k1Jv1Hv1k1Jv1Iv1k1Jv1Jv1k1",
   "Jv1Kv1k1Jv1Lv1k480v1k482v1k483v1k485v1k486v1k487v1k489v1k48Bv1k48Cv1k48Ev1k48Fv1k48Gv1k48Hv1",
   "k48Iv1k1B00v1k1C4Ov1k1CN4v1k1DRSv1k1EE8v1k1F0Kv1k1G5Cv1k1HA4v1k1HSGv1k1J18v1k1JJKv1k1K60v1k1",
   "KOCv1k1LAOv1k1J1Ov1B70v1k1I7Sv1HQOv1k1HLGv2kJG0v1kJKCv1kJG9v1kLMRv1kJKKv1kKBDv1kJG3v1kKBBv1k",
   "JITv1kKQ1v1kPO8v1kS3Bv1kR1Kv1kPP8v1k14EHv1kLOVv1kPF5v1kQ1Av1kPO9v1kU9Uv1kL0Dv1kSJPv1k1351v1k",
   "UATv1kKLKv1kUEOv1kT9Nv1kMBJv1k1439v1kK9Av1kKRGv1kR78v1k1605v1kJOHv1kKCPv1kQR3v1kJGAv1kJHDv1k",
   "JGBv1kNF6v1kKVJv1kKPRv1kMSNv1kMR6v1kTN3v1kJO1v1k1367v1kKQKv1kM8Sv1k1Jv1Mv1k1Jv1Nv1k1Jv1Ov1k1",
   "Jv1Pv1k1Kv1Gv1k1Kv1Hv1k1Kv1Iv1k1Kv1Jv1k1Kv1Kv1k1Kv1Lv1k1Kv1Mv1k1Kv1Nv1k1Kv1Ov1k1Kv1Pv1k1Lv1G",
   "v1k1HvPO8v1k1IvPO8v1k1JvPO8v1k1KvPO8v1k1LvPO8v1k1MvPO8v1k1NvPO8v1k1OvPO8v1k1PvPO8v1k1Hv1GvPO",
   "8v1k1Hv1HvPO8v1k1Hv1IvPO8v1k38v37v1k35v3Iv37v1k35v3Mv1k3Cv3Kv34v1kC52v1kC54v1kC56v1kC58v1kC5",
   "Av1kC5Bv1kC5Dv1kC5Fv1kC5Hv1kC5Jv1kC5Lv1kC5Nv1kC5Pv1kC5Rv1kC5Tv1kC5Vv1kC61v1kC64v1kC66v1kC68v",
   "1kC6Av1kC6Bv1kC6Cv1kC6Dv1kC6Ev1kC6Fv1kC6Iv1kC6Lv1kC6Ov1kC6Rv1kC6Uv1kC6Vv1kC70v1kC71v1kC72v1k",
   "C74v1kC76v1kC78v1kC79v1kC7Av1kC7Bv1kC7Cv1kC7Dv1kC7Fv1kC7Gv1kC7Hv1kC7Iv1kJN4vL4Cv1kC52vC6HvC7",
   "SvC68v1kC52vC7BvC6LvC51v1kC52vC7JvC6QvC52v1kC52vC7SvC7Bv1kC54vC6BvC7JvC5Gv1kC54vC7JvC61v1kC5",
   "6vC59vC7Jv1kC58vC5PvC5FvC7SvC69v1kC58vC7SvC5BvC7Sv1kC5AvC7JvC5Pv1kC5AvC7SvC70v1kC5BvC54vC7Av",
   "1kC5BvC79vC63vC68v1kC5BvC7DvC7AvC7Sv1kC5CvC7DvC7Jv1kC5CvC7JvC6Uv1kC5EvC5Cv1kC5EvC6BvC7Sv1kC5",
   "DvC75vC7AvC7Sv1kC5EvC7BvC60vC7Sv1kC5DvC7Dv1kC5DvC7DvC5GvC79vC70v1kC5DvC7DvC71vC7SvC68vC7Bv1k",
   "C5DvC7DvC7FvC63vC68v1kC5GvC79vC70v1kC5GvC79vC70vC68vC7Jv1kC5FvC7BvC5SvC54vC7Dv1kC5FvC7DvC7Sv",
   "C6Dv1kC5HvC7SvC5Pv1kC5JvC7BvC6Av1kC5JvC7SvC6Tv1kC5LvC54vC5FvC7Bv1kC5LvC7JvC61vC7SvC70v1kC5Nv",
   "C7AvC7JvC5Gv1kC5RvC7JvC61v1kC5RvC7JvC68v1kC60vC7SvC5Pv1kC67vC5Nv1kC69vC7Bv1kC68vC7Jv1kC6AvC6",
   "Ev1kC6EvC63vC68v1kC6FvC54vC64v1kC6HvC7SvC5RvC7JvC68v1kC6HvC7SvC64v1kC6GvC7SvC7CvC7Bv1kC6KvC5",
   "2vC5PvC68vC7Bv1kC6KvC5FvC7Bv1kC6KvC5Jv1kC6JvC7Bv1kC6LvC51vC79vC63vC69v1kC6LvC53vC7SvC68v1kC6",
   "MvC63vC5NvC57vC7Bv1kC6LvC79vC7Jv1kC6OvC5FvC5VvC7SvC7Bv1kC6QvC5Tv1kC6QvC6BvC6Iv1kC6OvC7BvC64v",
   "1kC6QvC7JvC5Pv1kC6QvC7SvC5Ov1kC6PvC7SvC5Vv1kC6TvC54vC7JvC68v1kC6SvC7BvC68v1kC6RvC7Jv1kC6TvC7",
   "JvC69v1kC6RvC7SvC7Bv1kC6RvC7SvC7Jv1kC6UvC54vC5FvC7Dv1kC6UvC54vC7Bv1kC6UvC63vC6Fv1kC6UvC7BvC5",
   "Fv1kC6UvC7JvC5NvC77vC7Jv1kC6VvC5FvC7DvC7Jv1kC6VvC7Av1kC6VvC7AvC6GvC7SvC7Bv1kC71vC5Cv1kC71vC5",
   "CvC68vC7Jv1kC71vC7SvC68vC7Bv1kC74vC7SvC69v1kC74vC7SvC7Bv1kC76vC52vC7Jv1kC7AvC63vC68vC7Bv1kC7",
   "AvC79v1kC7BvC6KvC7Sv1kC7BvC7SvC6MvC7Bv1kC7CvC70v1kC7CvC7JvC68vC5IvC7Jv1kC7FvC63vC68v1k1GvS5P",
   "v1k1HvS5Pv1k1IvS5Pv1k1JvS5Pv1k1KvS5Pv1k1LvS5Pv1k1MvS5Pv1k1NvS5Pv1k1OvS5Pv1k1PvS5Pv1k1Hv1GvS5",
   "Pv1k1Hv1HvS5Pv1k1Hv1IvS5Pv1k1Hv1JvS5Pv1k1Hv1KvS5Pv1k1Hv1LvS5Pv1k1Hv1MvS5Pv1k1Hv1NvS5Pv1k1Hv1",
   "OvS5Pv1k1Hv1PvS5Pv1k1Iv1GvS5Pv1k1Iv1HvS5Pv1k1Iv1IvS5Pv1k1Iv1JvS5Pv1k1Iv1KvS5Pv1k38v3Gv31v1k3",
   "4v31v1k31v3Lv1k32v31v3Iv1k3Fv3Mv1k3Gv33v1k34v3Dv1k34v3Dv1Iv1k34v3Dv1Jv1k39v3Lv1kNJJvOGGv1kPH",
   "DvL4Cv1kM97vQR3v1kPGEvR5Rv1kQ1AvNOFvJOQvU9Uv1k3Gv31v1k3Ev31v1kTSv31v1k3Dv31v1k3Bv31v1k3Bv32v",
   "1k3Dv32v1k37v32v1k33v31v3Cv1k3Bv33v31v3Cv1k3Gv36v1k3Ev36v1kTSv36v1kTSv37v1k3Dv37v1k3Bv37v1k3",
   "8v3Qv1k3Bv38v3Qv1k3Dv38v3Qv1k37v38v3Qv1k3Kv38v3Qv1kTSv3Cv1k3Dv3Cv1k34v3Cv1k3Bv3Cv1k36v3Dv1k3",
   "Ev3Dv1kTSv3Dv1k3Dv3Dv1k33v3Dv1k3Bv3Dv1k3Dv3Dv1Iv1k33v3Dv1Iv1k3Dv1Iv1k3Bv3Dv1Iv1k3Dv3Dv1Jv1k3",
   "3v3Dv1Jv1k3Dv1Jv1k3Bv3Dv1Jv1k3Dv8GLv3Jv1k3Dv8GLv3Jv1Iv1k3Gv31v1k3Bv3Gv31v1k3Dv3Gv31v1k37v3Gv",
   "31v1k3Iv31v34v1k3Iv31v34v8GLv3Jv1k3Iv31v34v8GLv3Jv1Iv1k3Gv3Jv1k3Ev3Jv1kTSv3Jv1k3Dv3Jv1k3Gv3M",
   "v1k3Ev3Mv1kTSv3Mv1k3Dv3Mv1k3Bv3Mv1k3Dv3Mv1k3Gv3Nv1k3Ev3Nv1kTSv3Nv1k3Dv3Nv1k3Bv3Nv1k3Dv3Nv1k3",
   "BvU9v1k3DvU9v2k32v3Hv1k33v33v1k33v34v1k33v8GLv3Bv37v2k34v32v1k37v3Pv1k38v31v1k38v3Gv1k39v3Ev",
   "1k3Bv3Bv1k3Bv3Dv1k3Bv3Kv1k3Cv3Dv1k3Cv3Ev1k3Cv3Fv37v1k3Cv3Ov1k3Dv32v1k3Dv39v3Cv1k3Dv3Fv3Cv1k3",
   "Gv38v2k3Gv3Gv3Dv1k3Gv3Iv1k3Jv3Iv1k3Jv3Mv1k3Nv32v1k3Mv8GLv3Dv1k31v8GLv3Dv1k1HvPF5v1k1IvPF5v1k",
   "1JvPF5v1k1KvPF5v1k1LvPF5v1k1MvPF5v1k1NvPF5v1k1OvPF5v1k1PvPF5v1k1Hv1GvPF5v1k1Hv1HvPF5v1k1Hv1I",
   "vPF5v1k1Hv1JvPF5v1k1Hv1KvPF5v1k1Hv1LvPF5v1k1Hv1MvPF5v1k1Hv1NvPF5v1k1Hv1OvPF5v1k1Hv1PvPF5v1k1",
   "Iv1GvPF5v1k1Iv1HvPF5v1k1Iv1IvPF5v1k1Iv1JvPF5v1k1Iv1KvPF5v1k1Iv1LvPF5v1k1Iv1MvPF5v1k1Iv1NvPF5",
   "v1k1Iv1OvPF5v1k1Iv1PvPF5v1k1Jv1GvPF5v1k1Jv1HvPF5v1k37v31v3CvSI1k19I1v2k19I3v2k19I5v2k19I7v2k",
   "19I9v2k19IBv2k19IDv2k19IFv2k19IHv2k19IJv2k19ILv2k19INv2k19IPv2k19IRv2k19ITv2k19IVv2k19J1v2k1",
   "9J3v2k19J5v2k19J7v2k19J9v2k19JBv2k19JDvKk19K1v2k19K3v2k19K5v2k19K7v2k19K9v2k19KBv2k19KDv2k19",
   "KFv2k19KHv2k19KJv2k19KLv2k19KNv2k19KPv2k19KRv2k12Av1k12Cv45k19P3v2k19P5v2k19P7v2k19P9v2k19PB",
   "v2k19PDv2k19PFv4k19PJv2k19PLv2k19PNv2k19PPv2k19PRv2k19PTv2k19PVv2k19Q1v2k19Q3v2k19Q5v2k19Q7v",
   "2k19Q9v2k19QBv2k19QDv2k19QFv2k19QHv2k19QJv2k19QLv2k19QNv2k19QPv2k19QRv2k19QTv2k19QVv2k19R1v2",
   "k19R3v2k19R5v2k19R7v2k19R9v2k19RBv2k19RDv2k19RFv2k19RFv9k19RQv2k19RSv2k7BPv1k19RVv2k19S1v2k1",
   "9S3v2k19S5v2k19S7v5k19SCv2kJ5v3k19SHv2k19SJv4k19SNv2k19SPv2k19SRv2k19STv2k19SVv2k19T1v2k19T3",
   "v2k19T5v2k19T7v2k19T9v2kJ6v1kISv1kJ1v1kJCv1kJAv2kKUv1kK7v1kKTv1k1AQJv1k19TLv2k19TNv2k19TPv2k",
   "19TRv2k19TTv2k19TVv2k19U1v2k19U3v2k19SKv1kK2v1k7CEv1k19U8v2k19UAv7k19UHv6k19UNv2k19UPvQk33v1",
   "k36v1k3Hv1k19VMv3k97v1kAJvR3k19P7v1k1APNv1kJBv1k1AQIvAkKDv7k4T0v1k4T1v1k4T2v1k4T3v1k4T4v1k4T",
   "5v1k4T6v1k4T7v1k4T8v1k4T9v1k4TAv1k4TBv1k4TCv1k4TDv1k4TEv1k4TFv1k4TGv1k4THv1k4TIv1k4TJv1k4TKv",
   "1k4TLv1k4TMv1k4TNv1k4TOv1k4TPv1k4TQv1k4TRv1k4TSv1k4TTv1k4TUv1k4TVv1k4U0v1k4U1v1k4U2v1k4U3v1k",
   "4U4v1k4U5v1k4U6v1k4U7v1k4U8v1k4U9v1k4UAv1k4UBv1k4UCv1k4UDv1k4UEv1k4UFv1k4UGv1k4UHv1k4UIv1k4U",
   "Jv1k4UKv1k4ULv1k4UMv1k4UNv1k4UOv1k4UPv1k4UQv1k4URv1k4USv1k4UTv1k4UUv1k4UVv1k4V0v1k4V1v1k4V2v",
   "1k4V3v1k4V4v1k4V5v1k4V6v1k4V7v1k4V8v1k4V9v1k4VAv1k4VBv1k4VCv1k4VDv1k4VEv1k4VFvJA1k1328v1kPNK",
   "v1k13MAv1k1368v1kRMHv1kJHIv1kKV5v1k17SSv1k17SSv1kMAHv1k14EHv1kLC7v1kMA8v1kOFMv1kTJ9v1kVS5v1k",
   "11HVv1k11TQv1k127Ov1k144Fv1kQG2v1kR8Rv1kS6Pv1kSUUv1k111Tv1k14BAv1k16FHv1kJK2v1kKRLv1kQO4v1kS",
   "GRv1k11HDv1k17GUv1kNAGv1kRVBv1k11EDv1k12B4v1kOM9v1k10EOv1k120Vv1kNMAv1kPONv1kRBAv1kSNSv1k146",
   "Ev1kJS6v1kKDNv1kKMUv1kP64v1kQMJv1kSGGv1kTN7v1k1001v1k11G6v1k11ISv1k13FFv1k15PIv1k16RFv1k17FQ",
   "v1kU4Cv1kUBVv1kVD0v1k10U9v1k14O4v1k17JVv1k12MMv1kM6Vv1kNO4v1kV30v1k103Uv1kSJ2v1kU6Av1k1362v1",
   "k15NNv1kM6Ov1kN32v1kQGJv1kREQv1kROFv1kV9Fv1kVHNv1k15IBv1kKMIv1k104Bv1kKESv1kKECv1kUGSv1kVDUv",
   "1k10VHv1k15JLv1k12S0v1kOMFv1kQG2v1k12NUv1kJHPv1kMV7v1kO0Iv1kSS7v1kTBGv1kKONv1kU7Rv1kJTVv1kNT",
   "9v1kJGDv1kR6Cv1kPBOv1kV92v1kKU3v1kM2Uv1kTO1v1k1129v1k12LAv1kQTQv1k13TGv1kR48v1kONUv1k10N5v1k",
   "OT0v1kTB5v1kJLEv1kKB9v1kKE9v1kQ41v1kV77v1k10JFv1k12MIv1k14EFv1kKNLv1kL22v1kMBJv1kNNCv1kPE5v1",
   "kRVUv1kU9Av1k15DDv1k16JAv1k17KNv1k17MEv1kKKRv1kPM6v1kQRNv1k13R2v1kNJKv1kOCGv1kOG0v1kP4Qv1kRP",
   "3v1kSA9v1kT49v1kUEAv1kVFKv1k103Fv1k13P6v1k117Ev1k1413v1k14QAv1kKGNv1kKL3v1kL5Tv1kS68v1k1262v",
   "1k12LAv1kNM9v1kNVLv1kORRv1kQTEv1kV1Uv1kSRLv1kJN4v1kLNPv1kMV7v1kNDQv1kO0Sv1kSTIv1kT39v1kVSQv1",
   "k1026v1k14HKv1k15NMv1k15Q8v1k160Ov1kJSBv1kUDEv1k14DKv1k15LOv1kO71v1kJK6v1kK6Qv1kMVEv1kN1Vv1k",
   "PCPv1kQG2v1kSEEv1kTI2v1k117Sv1k143Sv1k17SDv1kPK8v1k15HEv1kKK9v1kPRRv1kPVJv1kRA1v1kRKSv1kT09v",
   "1kTAPv1kU3Bv1kV8Gv1k162Uv1kKBDv1kOHEv1k15JOv1kK1Bv1kN8Pv1kRFAv1k13PAv1kNSBv1kOA4v1kQ0Nv1kSS7",
   "v1k15K6v1kKH9v1kL0Fv1kN35v1kPGJv1kPQEv1kQ58v1kR75v1kT06v1kTF2v1kVRPv1k126Fv1k1271v1k14ECv1k1",
   "5N2v1kKPVv1kRLQv1kL0Tv1kSEGv1kT4Ov1k11FQv1k15L3v1k172Nv1k17KVv1kPSNv1kREBv1k10F8v1kUMBv1kUP0",
   "v1kV4Iv1kSM0v1kS4Pv1k12QOv1kJM0v1k10PMv1kKHQv1kKG7v1kNL6v1kOMJv1kV6Mv1kMS5v1kR8Uv1kPLKv1k13P",
   "Rv1k122Cv1k15IDv1k12CBv1kNMJv1kKA0v1kLE0v3kM2Qv2kPJKv3kKEUv1kSPAv1kTMAv1kU9Sv1kUAUv1kUB5v1kU",
   "CFv1k15QMv1kV5Uv1kVTTv2k11GIv2k12NOv3k141Ov1k147Tv4k167Fv1k167Sv1k1698v1k17DKv1k146Uv1k15LNv",
   "1kJTEv1kK77v1kKADv1kKM9v1kKN4v1kKQHv1kLCTv1kLG6v1kLJ8v1kM20v1kM58v1kN34v1kN3Ev1kO4Kv1kOB8v1k",
   "OCEv1kOFIv1kPAFv1kPF2v1kPKHv1kQ45v1kRBNv1kRGQv1kRP2v1kSBEv1kSHBv1kT12v1kU4Hv1kU9Uv1kUA9v1kUA",
   "8v1kUAGv1kUAMv1kUATv1kUCDv1kUCEv1kUI0v1kUK1v1kUU0v1kVFKv1kVG9v1kVI1v1kVRIv1k1005v1k10FDv1k10",
   "JPv1k10JPv1k112Nv1k128Gv1k12CMv1k12O1v1k12PPv1k136Jv1k1388v1k13TMv1k141Ov1k15N3v1k15VVv1k161",
   "Rv1kO3Lv1k4GNEv1k10GOv3kJH6v1kKDLv1kKB8v1kJS0v1kKA5v1kKC0v1kKM7v1kKNQv1kLCTv1kLALv1kLCPv1kLF",
   "2v1kM2Qv1kM5Jv1kMA4v1kMAKv1kMJ2v1kMP8v1kNMIv1kNMPv1kNR9v1kNTDv1kO6Ov1kOAEv1kO88v1kOCEv1kOB0v",
   "1kOFIv1kOHKv1kOU4v1kP0Sv1kP2Iv1kPAMv1kPJKv1kPONv1kPORv1kPQMv1kQRPv1kQTQv1kRA1v1kRMRv1kRMBv1k",
   "RP2v1kS0Uv1kSBEv1kTT7v1kSHLv1kSLFv1kSPAv1kT3Hv1kT86v1kT9Rv1kTGTv1kTGVv1kTMAv1kTMRv1kTNKv1kTQ",
   "Av1kTQ0v1kU6Cv1kULHv1kUU0v1kV3Rv1kVARv1kVFKv1kVPUv1k1005v1k10QIv1k10VFv1k11RPv1k12A1v1k12C6v",
   "1k12CMv1k12LVv1k12NOv1k12MBv1k12O1v1k12NUv1k12NDv1k12PPv1k12SAv1k1388v1k13POv1k143Iv1k14CPv1",
   "k14JMv1k15JSv1k15N3v1k15QMv1k15URv1k15VVv1k160Bv1k161Rv1k16OIv1k17SSv1k4A2Av1k4A24v1k4CULv1k",
   "ESTv1kG0Ov1kG1Pv1k4KI9v1k4N6Gv1k4VMJv1k17Q3v1k17SEv17k36v36v1k36v39v1k36v3Cv1k36v36v39v1k36v",
   "36v3Cv1k3Jv3Kv1k3Jv3KvDk1BKv1BMv1k1BKv1B5v1k1BKv1BBv1k1BUv1BMv1k1BKv1BDv6k1EPv1DKv2k1FIv1DNv",
   "1k1F2v1k1EGv1k1EJv1k1EKv1k1ERv1k1ESv1k1ETv1k1F8v1k1FAv1k1Bv1k1F9v1E1v1k1F9v1E2v1k1F9v1DSv1E1",
   "v1k1F9v1DSv1E2v1k1EGv1DNv1k1EGv1DOv1k1EGv1DSv1k1EHv1DSv1k1EIv1DSv1k1EJv1DSv1k1EKv1DSv1k1ELv1",
   "DSv1k1EMv1DSv2k1EOv1DSv1k1EPv1DSv1k1EQv1DSv1k1ERv1DSv1k1ESv1DSv2k1EUv1DSv2k1F0v1DSv1k1F1v1DS",
   "v2k1F3v1DSv1k1F4v1DSv2k1F6v1DSv1k1F7v1DSv1k1F8v1DSv1k1F9v1DSv1k1FAv1DSv1k1ELv1DPv1k1EHv1DVv1",
   "k1ERv1DVv1k1F4v1DVv1k1EGv1ESv1k1JHv1k1JHv1k1JRv1k1JRv1k1JRv1k1JRv1k1JUv1k1JUv1k1JUv1k1JUv1k1",
   "K0v1k1K0v1k1K0v1k1K0v1k1JQv1k1JQv1k1JQv1k1JQv1k1JVv1k1JVv1k1JVv1k1JVv1k1JPv1k1JPv1k1JPv1k1JP",
   "v1k1L4v1k1L4v1k1L4v1k1L4v1k1L6v1k1L6v1k1L6v1k1L6v1k1K4v1k1K4v1k1K4v1k1K4v1k1K3v1k1K3v1k1K3v1",
   "k1K3v1k1K6v1k1K6v1k1K6v1k1K6v1k1K7v1k1K7v1k1K7v1k1K7v1k1KDv1k1KDv1k1KCv1k1KCv1k1KEv1k1KEv1k1",
   "K8v1k1K8v1k1KOv1k1KOv1k1KHv1k1KHv1k1L9v1k1L9v1k1L9v1k1L9v1k1LFv1k1LFv1k1LFv1k1LFv1k1LJv1k1LJ",
   "v1k1LJv1k1LJv1k1LHv1k1LHv1k1LHv1k1LHv1k1LQv1k1LQv1k1LRv1k1LRv1k1LRv1k1LRv1k1M0v1k1M0v1k1M1v1",
   "k1M1v1k1M1v1k1M1v1k1LUv1k1LUv1k1LUv1k1LUv1k1MIv1k1MIv1k1MJv1k1MJv12k1LDv1k1LDv1k1LDv1k1LDv1k",
   "1M7v1k1M7v1k1M6v1k1M6v1k1M8v1k1M8v1k1M7v1JKv1k1MBv1k1MBv1k1M5v1k1M5v1k1M9v1k1M9v1k1MGv1k1MGv",
   "1k1MGv1k1MGv1k1I9v1k1I9v1k1H6v1H7v1k1H6v1H7v1k1H6v1MLv1k1H6v1MLv1k1H6v1I8v1k1H6v1I8v1k1H6v1M",
   "7v1k1H6v1M7v1k1H6v1M6v1k1H6v1M6v1k1H6v1M8v1k1H6v1M8v1k1H6v1MGv1k1H6v1MGv1k1H6v1MGv1k1H6v1I9v",
   "1k1H6v1I9v1k1H6v1I9v1k1MCv1k1MCv1k1MCv1k1MCv1k1H6v1HCv1k1H6v1HDv1k1H6v1I5v1k1H6v1I9v1k1H6v1I",
   "Av1k1H8v1HCv1k1H8v1HDv1k1H8v1HEv1k1H8v1I5v1k1H8v1I9v1k1H8v1IAv1k1HAv1HCv1k1HAv1HDv1k1HAv1HEv",
   "1k1HAv1I5v1k1HAv1I9v1k1HAv1IAv1k1HBv1HCv1k1HBv1I5v1k1HBv1I9v1k1HBv1IAv1k1HCv1HDv1k1HCv1I5v1k",
   "1HDv1HCv1k1HDv1I5v1k1HEv1HCv1k1HEv1HDv1k1HEv1I5v1k1HJv1HCv1k1HJv1HDv1k1HJv1HEv1k1HJv1I5v1k1H",
   "Lv1HDv1k1HLv1I5v1k1HMv1HCv1k1HMv1HDv1k1HMv1HEv1k1HMv1I5v1k1HNv1HDv1k1HNv1I5v1k1HOv1I5v1k1HPv",
   "1HCv1k1HPv1I5v1k1HQv1HCv1k1HQv1I5v1k1I1v1HCv1k1I1v1HDv1k1I1v1HEv1k1I1v1I5v1k1I1v1I9v1k1I1v1I",
   "Av1k1I2v1HDv1k1I2v1I5v1k1I2v1I9v1k1I2v1IAv1k1I3v1H7v1k1I3v1HCv1k1I3v1HDv1k1I3v1HEv1k1I3v1I4v",
   "1k1I3v1I5v1k1I3v1I9v1k1I3v1IAv1k1I4v1HCv1k1I4v1HDv1k1I4v1HEv1k1I4v1I5v1k1I4v1I9v1k1I4v1IAv1k",
   "1I5v1HCv1k1I5v1HDv1k1I5v1HEv1k1I5v1I5v1k1I5v1I9v1k1I5v1IAv1k1I6v1HCv1k1I6v1HDv1k1I6v1HEv1k1I",
   "6v1I5v1k1I6v1I9v1k1I6v1IAv1k1I7v1HCv1k1I7v1I5v1k1I7v1I9v1k1I7v1IAv1k1IAv1HCv1k1IAv1HDv1k1IAv",
   "1HEv1k1IAv1I5v1k1IAv1I9v1k1IAv1IAv1k1HGv1JGv1k1HHv1JGv1k1I9v1JGv1k10v1ICv1IHv1k10v1IDv1IHv1k",
   "10v1IEv1IHv1k10v1IFv1IHv1k10v1IGv1IHv1k10v1IHv1JGv1k1H6v1HHv1k1H6v1HIv1k1H6v1I5v1k1H6v1I6v1k",
   "1H6v1I9v1k1H6v1IAv1k1H8v1HHv1k1H8v1HIv1k1H8v1I5v1k1H8v1I6v1k1H8v1I9v1k1H8v1IAv1k1HAv1HHv1k1H",
   "Av1HIv1k1HAv1I5v1k1HAv1I6v1k1HAv1I9v1k1HAv1IAv1k1HBv1HHv1k1HBv1HIv1k1HBv1I5v1k1HBv1I6v1k1HBv",
   "1I9v1k1HBv1IAv1k1I1v1I9v1k1I1v1IAv1k1I2v1I9v1k1I2v1IAv1k1I3v1H7v1k1I3v1I4v1k1I3v1I5v1k1I3v1I",
   "9v1k1I3v1IAv1k1I4v1I5v1k1I4v1I9v1k1I4v1IAv1k1I5v1H7v1k1I5v1I5v1k1I6v1HHv1k1I6v1HIv1k1I6v1I5v",
   "1k1I6v1I6v1k1I6v1I9v1k1I6v1IAv1k1I9v1JGv1k1IAv1HHv1k1IAv1HIv1k1IAv1I5v1k1IAv1I6v1k1IAv1I9v1k",
   "1IAv1IAv1k1H6v1HCv1k1H6v1HDv1k1H6v1HEv1k1H6v1I5v1k1H6v1I7v1k1H8v1HCv1k1H8v1HDv1k1H8v1HEv1k1H",
   "8v1I5v1k1H8v1I7v1k1HAv1HCv1k1HAv1HDv1k1HAv1HEv1k1HAv1I5v1k1HAv1I7v1k1HBv1I5v1k1HCv1HDv1k1HCv",
   "1I5v1k1HDv1HCv1k1HDv1I5v1k1HEv1HCv1k1HEv1I5v1k1HJv1HCv1k1HJv1HDv1k1HJv1HEv1k1HJv1I5v1k1HLv1H",
   "Dv1k1HLv1HEv1k1HLv1I5v1k1HMv1HCv1k1HMv1HDv1k1HMv1HEv1k1HMv1I5v1k1HNv1HDv1k1HOv1I5v1k1HPv1HCv",
   "1k1HPv1I5v1k1HQv1HCv1k1HQv1I5v1k1I1v1HCv1k1I1v1HDv1k1I1v1HEv1k1I1v1I5v1k1I2v1HDv1k1I2v1I5v1k",
   "1I3v1HCv1k1I3v1HDv1k1I3v1HEv1k1I3v1I4v1k1I3v1I5v1k1I4v1HCv1k1I4v1HDv1k1I4v1HEv1k1I4v1I5v1k1I",
   "4v1I7v1k1I5v1HCv1k1I5v1HDv1k1I5v1HEv1k1I5v1I5v1k1I6v1HCv1k1I6v1HDv1k1I6v1HEv1k1I6v1I5v1k1I6v",
   "1I7v1k1I7v1HCv1k1I7v1I5v1k1I7v1JGv1k1IAv1HCv1k1IAv1HDv1k1IAv1HEv1k1IAv1I5v1k1IAv1I7v1k1H6v1I",
   "5v1k1H6v1I7v1k1H8v1I5v1k1H8v1I7v1k1HAv1I5v1k1HAv1I7v1k1HBv1I5v1k1HBv1I7v1k1HJv1I5v1k1HJv1I7v",
   "1k1HKv1I5v1k1HKv1I7v1k1I3v1I4v1k1I3v1I5v1k1I4v1I5v1k1I6v1I5v1k1I6v1I7v1k1IAv1I5v1k1IAv1I7v1k",
   "1I0v1IEv1IHv1k1I0v1IFv1IHv1k1I0v1IGv1IHv1k1HNv1I9v1k1HNv1IAv1k1HPv1I9v1k1HPv1IAv1k1HQv1I9v1k",
   "1HQv1IAv1k1HJv1I9v1k1HJv1IAv1k1HKv1I9v1k1HKv1IAv1k1HDv1I9v1k1HDv1IAv1k1HCv1I9v1k1HCv1IAv1k1H",
   "Ev1I9v1k1HEv1IAv1k1HLv1I9v1k1HLv1IAv1k1HMv1I9v1k1HMv1IAv1k1HKv1HCv1k1HKv1HDv1k1HKv1HEv1k1HKv",
   "1I5v1k1HKv1HHv1k1HJv1HHv1k1HLv1HHv1k1HMv1HHv1k1HNv1I9v1k1HNv1IAv1k1HPv1I9v1k1HPv1IAv1k1HQv1I",
   "9v1k1HQv1IAv1k1HJv1I9v1k1HJv1IAv1k1HKv1I9v1k1HKv1IAv1k1HDv1I9v1k1HDv1IAv1k1HCv1I9v1k1HCv1IAv",
   "1k1HEv1I9v1k1HEv1IAv1k1HLv1I9v1k1HLv1IAv1k1HMv1I9v1k1HMv1IAv1k1HKv1HCv1k1HKv1HDv1k1HKv1HEv1k",
   "1HKv1I5v1k1HKv1HHv1k1HJv1HHv1k1HLv1HHv1k1HMv1HHv1k1HKv1HCv1k1HKv1HDv1k1HKv1HEv1k1HKv1I5v1k1H",
   "Jv1I7v1k1HKv1I7v1k1HNv1I5v1k1HJv1HCv1k1HJv1HDv1k1HJv1HEv1k1HKv1HCv1k1HKv1HDv1k1HKv1HEv1k1HNv",
   "1I5v1k1HOv1I5v1k1H7v1IBv1k1H7v1IBvJk1HAv1HCv1I5v1k1HAv1HDv1HCv1k1HAv1HDv1HCv1k1HAv1HDv1I5v1k",
   "1HAv1HEv1I5v1k1HAv1I5v1HCv1k1HAv1I5v1HDv1k1HAv1I5v1HEv1k1HCv1I5v1HDv1k1HCv1I5v1HDv1k1HDv1I5v",
   "1IAv1k1HDv1I5v1I9v1k1HJv1HDv1HCv1k1HJv1HCv1HDv1k1HJv1HCv1I9v1k1HJv1I5v1HDv1k1HJv1I5v1HDv1k1H",
   "Jv1I5v1HCv1k1HJv1I5v1I5v1k1HJv1I5v1I5v1k1HLv1HDv1HDv1k1HLv1HDv1HDv1k1HLv1I5v1I5v1k1HKv1HDv1I",
   "5v1k1HKv1HDv1I5v1k1HKv1HCv1IAv1k1HKv1I5v1HEv1k1HKv1I5v1HEv1k1HKv1I5v1I5v1k1HKv1I5v1I5v1k1HMv",
   "1HDv1I9v1k1HMv1HEv1I5v1k1HMv1HEv1I5v1k1HNv1I5v1HDv1k1HNv1I5v1HDv1k1HNv1I5v1I5v1k1HNv1I5v1IAv",
   "1k1HPv1HCv1I5v1k1HPv1I5v1I5v1k1HPv1I5v1I5v1k1HPv1I5v1I9v1k1HQv1I5v1I5v1k1HQv1I5v1IAv1k1HQv1I",
   "5v1I9v1k1I1v1HEv1I5v1k1I1v1HEv1I5v1k1I2v1I5v1HDv1k1I2v1I5v1I5v1k1I4v1HDv1I5v1k1I4v1HDv1IAv1k",
   "1I4v1HDv1I9v1k1I4v1HCv1HCv1k1I4v1HCv1HCv1k1I4v1HEv1I5v1k1I4v1HEv1I5v1k1I4v1I5v1HDv1k1I4v1I5v",
   "1HDv1k1I5v1HDv1HCv1k1I5v1HDv1I5v1k1I5v1HDv1IAv1k1I5v1HCv1HDv1k1I5v1HCv1I5v1k1I5v1HEv1HCv1k1I",
   "5v1HEv1I5v3k1I5v1HCv1HEv1k1I7v1I5v1HCv1k1I7v1I5v1I5v1k1I6v1HDv1I5v1k1I6v1HDv1I9v1k1I6v1HCv1I",
   "5v1k1I6v1HCv1I5v1k1I6v1HCv1I9v1k1I6v1I5v1IAv1k1I6v1I5v1I9v1k1IAv1I5v1I5v1k1IAv1I5v1I5v1k1H8v",
   "1HEv1IAv1k1HAv1HCv1IAv1k1HAv1HCv1I9v1k1HAv1HEv1IAv1k1HAv1HEv1I9v1k1HAv1I5v1IAv1k1HAv1I5v1I9v",
   "1k1HCv1I5v1IAv1k1HCv1HDv1I9v1k1HCv1I5v1I9v1k1HJv1HEv1I9v1k1HLv1HDv1IAv1k1HKv1HDv1IAv1k1HMv1H",
   "Dv1IAv1k1I4v1HCv1IAv1k1I4v1I5v1IAv1k1IAv1HDv1IAv1k1IAv1HCv1IAv1k1IAv1I5v1IAv1k1I5v1I5v1IAv1k",
   "1I2v1I5v1IAv1k1I6v1HDv1IAv1k1I2v1I5v1HDv1k1I4v1HDv1I5v1k1HPv1I5v1IAv1k1I3v1I5v1IAv1k1I6v1HCv",
   "1HDv1k1I5v1HEv1IAv1k1I4v1HCv1I5v1k1I3v1I5v1I5v1k1I4v1HCv1I5v1k1I6v1HCv1HDv1k1HCv1HDv1IAv1k1H",
   "Dv1HCv1IAv1k1I5v1HCv1IAv1k1I1v1I5v1IAv1k1H8v1HDv1IAv1k1I3v1I5v1I5v1k1HPv1HCv1I5v1k1HLv1I5v1I",
   "5v1k1HJv1HEv1IAv1k1I6v1HCv1IAv19k1HLv1I4v1MIv1k1I2v1I4v1MIv1k1H7v1I4v1I4v1I7v1k1H7v1I3v1H8v1",
   "HHv1k1I5v1HDv1I5v1HFv1k1HLv1I4v1HPv1I5v1k1HHv1HJv1I8v1I4v1k1HPv1I4v1IAv1I7v1k1I8v1HJv1I4v1I5",
   "v1k1HLv1I4v1I9v1k1HLv1I4v1I9v10v1H7v1I4v1I4v1I7v10v1HPv1I4v1IAv1I7v10v1I8v1HJv1I4v1I5v1k1HCv",
   "1I4v10v1HCv1I4v1H7v1I4v1I7v1k1HHv1MCv1H7v1I4vKk1Cv1kC01v2k1Qv1k1Rv1k11v1k1Vv1kC0Mv1kC0NvPk80",
   "Kv1k80Jv1k2Vv1k2Vv1k18v1k19v1k3Rv1k3Tv1kC0Kv1kC0Lv1kC0Gv1kC0Hv1kC0Av1kC0Bv1kC08v1kC09v1kC0Cv",
   "1kC0Dv1kC0Ev1kC0Fv3k2Rv1k2Tv1k10vO5v1k10vO5v1k10vO5v1k10vO5v1k2Vv1k2Vv1k2Vv1k1Cv1kC01v3k1Rv1",
   "k1Qv1k1Vv1k11v1k80Kv1k18v1k19v1k3Rv1k3Tv1kC0Kv1kC0Lv1k13v1k16v1k1Av1k1Bv1k1Dv1k1Sv1k1Uv1k1Tv",
   "2k2Sv1k14v1k15v1k20v5k10v1IBv1k1I0v1IBv1k10v1ICv2k10v1IDv2k10v1IEv1k1I0v1IEv1k10v1IFv1k1I0v1",
   "IFv1k10v1IGv1k1I0v1IGv1k10v1IHv1k1I0v1IHv1k10v1IIv1k1I0v1IIv1k1H1v1k1H2v1k1H2v1k1H3v1k1H3v1k",
   "1H4v1k1H4v1k1H5v1k1H5v1k1H6v1k1H6v1k1H6v1k1H6v1k1H7v1k1H7v1k1H8v1k1H8v1k1H8v1k1H8v1k1H9v1k1H",
   "9v1k1HAv1k1HAv1k1HAv1k1HAv1k1HBv1k1HBv1k1HBv1k1HBv1k1HCv1k1HCv1k1HCv1k1HCv1k1HDv1k1HDv1k1HDv",
   "1k1HDv1k1HEv1k1HEv1k1HEv1k1HEv1k1HFv1k1HFv1k1HGv1k1HGv1k1HHv1k1HHv1k1HIv1k1HIv1k1HJv1k1HJv1k",
   "1HJv1k1HJv1k1HKv1k1HKv1k1HKv1k1HKv1k1HLv1k1HLv1k1HLv1k1HLv1k1HMv1k1HMv1k1HMv1k1HMv1k1HNv1k1H",
   "Nv1k1HNv1k1HNv1k1HOv1k1HOv1k1HOv1k1HOv1k1HPv1k1HPv1k1HPv1k1HPv1k1HQv1k1HQv1k1HQv1k1HQv1k1I1v",
   "1k1I1v1k1I1v1k1I1v1k1I2v1k1I2v1k1I2v1k1I2v1k1I3v1k1I3v1k1I3v1k1I3v1k1I4v1k1I4v1k1I4v1k1I4v1k",
   "1I5v1k1I5v1k1I5v1k1I5v1k1I6v1k1I6v1k1I6v1k1I6v1k1I7v1k1I7v1k1I7v1k1I7v1k1I8v1k1I8v1k1I9v1k1I",
   "9v1k1IAv1k1IAv1k1IAv1k1IAv1k1I4v1H2v1k1I4v1H2v1k1I4v1H3v1k1I4v1H3v1k1I4v1H5v1k1I4v1H5v1k1I4v",
   "1H7v1k1I4v1H7v5k11v1k12v1k13v1k14v1k15v1k16v1k17v1k18v1k19v1k1Av1k1Bv1k1Cv1k1Dv1k1Ev1k1Fv1k1",
   "Gv1k1Hv1k1Iv1k1Jv1k1Kv1k1Lv1k1Mv1k1Nv1k1Ov1k1Pv1k1Qv1k1Rv1k1Sv1k1Tv1k1Uv1k1Vv1k20v1k31v1k32v",
   "1k33v1k34v1k35v1k36v1k37v1k38v1k39v1k3Av1k3Bv1k3Cv1k3Dv1k3Ev1k3Fv1k3Gv1k3Hv1k3Iv1k3Jv1k3Kv1k",
   "3Lv1k3Mv1k3Nv1k3Ov1k3Pv1k3Qv1k2Rv1k2Sv1k2Tv1k2Uv1k2Vv1k30v1k31v1k32v1k33v1k34v1k35v1k36v1k37",
   "v1k38v1k39v1k3Av1k3Bv1k3Cv1k3Dv1k3Ev1k3Fv1k3Gv1k3Hv1k3Iv1k3Jv1k3Kv1k3Lv1k3Mv1k3Nv1k3Ov1k3Pv1",
   "k3Qv1k3Rv1k3Sv1k3Tv1k3Uv1kAC5v1kAC6v1k1Ev1kC0Cv1kC0Dv1kC01v1kC7Rv1kC7Iv1kC51v1kC53v1kC55v1kC",
   "57v1kC59v1kC73v1kC75v1kC77v1kC63v1kC7Sv1kC52v1kC54v1kC56v1kC58v1kC5Av1kC5Bv1kC5Dv1kC5Fv1kC5H",
   "v1kC5Jv1kC5Lv1kC5Nv1kC5Pv1kC5Rv1kC5Tv1kC5Vv1kC61v1kC64v1kC66v1kC68v1kC6Av1kC6Bv1kC6Cv1kC6Dv1",
   "kC6Ev1kC6Fv1kC6Iv1kC6Lv1kC6Ov1kC6Rv1kC6Uv1kC6Vv1kC70v1kC71v1kC72v1kC74v1kC76v1kC78v1kC79v1kC",
   "7Av1kC7Bv1kC7Cv1kC7Dv1kC7Fv1kC7Jv1kC4Pv1kC4Qv2k480v1k481v1k4DAv1k482v1k4DCv1k4DDv1k483v1k484",
   "v1k485v1k4DGv1k4DHv1k4DIv1k4DJv1k4DKv1k4DLv1k48Qv1k486v1k487v1k488v1k491v1k489v1k48Av1k48Bv1",
   "k48Cv1k48Dv1k48Ev1k48Fv1k48Gv1k48Hv1k48Iv4k4B1v1k4B2v1k4B3v1k4B4v1k4B5v1k4B6v3k4B7v1k4B8v1k4",
   "B9v1k4BAv1k4BBv1k4BCv3k4BDv1k4BEv1k4BFv1k4BGv1k4BHv1k4BIv3k4BJv1k4BKv1k4BLv4k52v1k53v1k5Cv1k",
   "10vO4v1k56v1k55v1k859v2k982v1k8CGv1k8CHv1k8CIv1k8CJv1k9D0v1k9EBv10Ik2118v1k2119v1k211Av1k211",
   "Bv1k211Cv1k211Dv1k211Ev1k211Fv1k211Gv1k211Hv1k211Iv1k211Jv1k211Kv1k211Lv1k211Mv1k211Nv1k211O",
   "v1k211Pv1k211Qv1k211Rv1k211Sv1k211Tv1k211Uv1k211Vv1k2120v1k2121v1k2122v1k2123v1k2124v1k2125v",
   "1k2126v1k2127v1k2128v1k2129v1k212Av1k212Bv1k212Cv1k212Dv1k212Ev1k212Fv49k216Ov1k216Pv1k216Qv",
   "1k216Rv1k216Sv1k216Tv1k216Uv1k216Vv1k2170v1k2171v1k2172v1k2173v1k2174v1k2175v1k2176v1k2177v1",
   "k2178v1k2179v1k217Av1k217Bv1k217Cv1k217Dv1k217Ev1k217Fv1k217Gv1k217Hv1k217Iv1k217Jv1k217Kv1k",
   "217Lv1k217Mv1k217Nv1k217Ov1k217Pv1k217Qv1k217Rv4Tk21CNv1k21COv1k21CPv1k21CQv1k21CRv1k21CSv1k",
   "21CTv1k21CUv1k21CVv1k21D0v1k21D1v2k21D3v1k21D4v1k21D5v1k21D6v1k21D7v1k21D8v1k21D9v1k21DAv1k2",
   "1DBv1k21DCv1k21DDv1k21DEv1k21DFv1k21DGv1k21DHv2k21DJv1k21DKv1k21DLv1k21DMv1k21DNv1k21DOv1k21",
   "DPv2k21DRv1k21DSvFCkMGv1kMHv1k76v1kKPv1kIJv2kL3v1k1AR6v1kL5v1kL4v1kIMv1kINv1k7CHv1kIOv1kIUv1",
   "kL9v1kJ4v1kJ2v1kJ0v1kKRv1k97v1kKSv1kJ7v1kK4v1kLAv1kLBv1kJCv1k3NO4v1k19SEv1kJEv1k3NO5v1kKEv1k",
   "3NO6v1k7Ov1kJMv1kJNv1k3Hv1kJQv1k3NO8v1kJTv1kJUv1kK0v1kL8v1kL6v1k1AR7v1kL7v1kK8v1kB3Hv2kKFv1k",
   "L1v1kL2v1kKOv1kE0v1kE1v1kE2v1k3NOAv1k3NOUv166k2360v1k2361v1k2362v1k2363v1k2364v1k2365v1k2366",
   "v1k2367v1k2368v1k2369v1k236Av1k236Bv1k236Cv1k236Dv1k236Ev1k236Fv1k236Gv1k236Hv1k236Iv1k236Jv",
   "1k236Kv1k236Lv1k236Mv1k236Nv1k236Ov1k236Pv1k236Qv1k236Rv1k236Sv1k236Tv1k236Uv1k236Vv1k2370v1",
   "k2371v1k2372v1k2373v1k2374v1k2375v1k2376v1k2377v1k2378v1k2379v1k237Av1k237Bv1k237Cv1k237Dv1k",
   "237Ev1k237Fv1k237Gv1k237Hv1k237Iv2VEk2660v1k2661v1k2662v1k2663v1k2664v1k2665v1k2666v1k2667v1",
   "k2668v1k2669v1k266Av1k266Bv1k266Cv1k266Dv1k266Ev1k266Fv1k266Gv1k266Hv1k266Iv1k266Jv1k266Kv1k",
   "266Lv1k266Mv1k266Nv1k266Ov1k266Pv1k266Qv1k266Rv1k266Sv1k266Tv1k266Uv1k266VvLC1k2RJ0v1k2RJ1v1",
   "k2RJ2v1k2RJ3v1k2RJ4v1k2RJ5v1k2RJ6v1k2RJ7v1k2RJ8v1k2RJ9v1k2RJAv1k2RJBv1k2RJCv1k2RJDv1k2RJEv1k",
   "2RJFv1k2RJGv1k2RJHv1k2RJIv1k2RJJv1k2RJKv1k2RJLv1k2RJMv1k2RJNv1k2RJOv1k2RJPv1k2RJQv1k2RJRv1k2",
   "RJSv1k2RJTv1k2RJUv1k2RJVvONVk3KANv3KB5v1k3KAOv3KB5v1k3KAOv3KB5v3KBEv1k3KAOv3KB5v3KBFv1k3KAOv",
   "3KB5v3KBGv1k3KAOv3KB5v3KBHv1k3KAOv3KB5v3KBIv2Nk3KDPv3KB5v1k3KDQv3KB5v1k3KDPv3KB5v3KBEv1k3KDQ",
   "v3KB5v3KBEv1k3KDPv3KB5v3KBFv1k3KDQv3KB5v3KBFvI0k31v1k32v1k33v1k34v1k35v1k36v1k37v1k38v1k39v1",
   "k3Av1k3Bv1k3Cv1k3Dv1k3Ev1k3Fv1k3Gv1k3Hv1k3Iv1k3Jv1k3Kv1k3Lv1k3Mv1k3Nv1k3Ov1k3Pv1k3Qv1k31v1k3",
   "2v1k33v1k34v1k35v1k36v1k37v1k38v1k39v1k3Av1k3Bv1k3Cv1k3Dv1k3Ev1k3Fv1k3Gv1k3Hv1k3Iv1k3Jv1k3Kv",
   "1k3Lv1k3Mv1k3Nv1k3Ov1k3Pv1k3Qv1k31v1k32v1k33v1k34v1k35v1k36v1k37v1k38v1k39v1k3Av1k3Bv1k3Cv1k",
   "3Dv1k3Ev1k3Fv1k3Gv1k3Hv1k3Iv1k3Jv1k3Kv1k3Lv1k3Mv1k3Nv1k3Ov1k3Pv1k3Qv1k31v1k32v1k33v1k34v1k35",
   "v1k36v1k37v2k39v1k3Av1k3Bv1k3Cv1k3Dv1k3Ev1k3Fv1k3Gv1k3Hv1k3Iv1k3Jv1k3Kv1k3Lv1k3Mv1k3Nv1k3Ov1",
   "k3Pv1k3Qv1k31v1k32v1k33v1k34v1k35v1k36v1k37v1k38v1k39v1k3Av1k3Bv1k3Cv1k3Dv1k3Ev1k3Fv1k3Gv1k3",
   "Hv1k3Iv1k3Jv1k3Kv1k3Lv1k3Mv1k3Nv1k3Ov1k3Pv1k3Qv1k31v1k32v1k33v1k34v1k35v1k36v1k37v1k38v1k39v",
   "1k3Av1k3Bv1k3Cv1k3Dv1k3Ev1k3Fv1k3Gv1k3Hv1k3Iv1k3Jv1k3Kv1k3Lv1k3Mv1k3Nv1k3Ov1k3Pv1k3Qv1k31v2k",
   "33v1k34v3k37v3k3Av1k3Bv3k3Ev1k3Fv1k3Gv1k3Hv2k3Jv1k3Kv1k3Lv1k3Mv1k3Nv1k3Ov1k3Pv1k3Qv1k31v1k32",
   "v1k33v1k34v2k36v2k38v1k39v1k3Av1k3Bv1k3Cv1k3Dv1k3Ev2k3Gv1k3Hv1k3Iv1k3Jv1k3Kv1k3Lv1k3Mv1k3Nv1",
   "k3Ov1k3Pv1k3Qv1k31v1k32v1k33v1k34v1k35v1k36v1k37v1k38v1k39v1k3Av1k3Bv1k3Cv1k3Dv1k3Ev1k3Fv1k3",
   "Gv1k3Hv1k3Iv1k3Jv1k3Kv1k3Lv1k3Mv1k3Nv1k3Ov1k3Pv1k3Qv1k31v1k32v1k33v1k34v1k35v1k36v1k37v1k38v",
   "1k39v1k3Av1k3Bv1k3Cv1k3Dv1k3Ev1k3Fv1k3Gv1k3Hv1k3Iv1k3Jv1k3Kv1k3Lv1k3Mv1k3Nv1k3Ov1k3Pv1k3Qv1k",
   "31v1k32v2k34v1k35v1k36v1k37v3k3Av1k3Bv1k3Cv1k3Dv1k3Ev1k3Fv1k3Gv1k3Hv2k3Jv1k3Kv1k3Lv1k3Mv1k3N",
   "v1k3Ov1k3Pv2k31v1k32v1k33v1k34v1k35v1k36v1k37v1k38v1k39v1k3Av1k3Bv1k3Cv1k3Dv1k3Ev1k3Fv1k3Gv1",
   "k3Hv1k3Iv1k3Jv1k3Kv1k3Lv1k3Mv1k3Nv1k3Ov1k3Pv1k3Qv1k31v1k32v2k34v1k35v1k36v1k37v2k39v1k3Av1k3",
   "Bv1k3Cv1k3Dv2k3Fv4k3Jv1k3Kv1k3Lv1k3Mv1k3Nv1k3Ov1k3Pv2k31v1k32v1k33v1k34v1k35v1k36v1k37v1k38v",
   "1k39v1k3Av1k3Bv1k3Cv1k3Dv1k3Ev1k3Fv1k3Gv1k3Hv1k3Iv1k3Jv1k3Kv1k3Lv1k3Mv1k3Nv1k3Ov1k3Pv1k3Qv1k",
   "31v1k32v1k33v1k34v1k35v1k36v1k37v1k38v1k39v1k3Av1k3Bv1k3Cv1k3Dv1k3Ev1k3Fv1k3Gv1k3Hv1k3Iv1k3J",
   "v1k3Kv1k3Lv1k3Mv1k3Nv1k3Ov1k3Pv1k3Qv1k31v1k32v1k33v1k34v1k35v1k36v1k37v1k38v1k39v1k3Av1k3Bv1",
   "k3Cv1k3Dv1k3Ev1k3Fv1k3Gv1k3Hv1k3Iv1k3Jv1k3Kv1k3Lv1k3Mv1k3Nv1k3Ov1k3Pv1k3Qv1k31v1k32v1k33v1k3",
   "4v1k35v1k36v1k37v1k38v1k39v1k3Av1k3Bv1k3Cv1k3Dv1k3Ev1k3Fv1k3Gv1k3Hv1k3Iv1k3Jv1k3Kv1k3Lv1k3Mv",
   "1k3Nv1k3Ov1k3Pv1k3Qv1k31v1k32v1k33v1k34v1k35v1k36v1k37v1k38v1k39v1k3Av1k3Bv1k3Cv1k3Dv1k3Ev1k",
   "3Fv1k3Gv1k3Hv1k3Iv1k3Jv1k3Kv1k3Lv1k3Mv1k3Nv1k3Ov1k3Pv1k3Qv1k31v1k32v1k33v1k34v1k35v1k36v1k37",
   "v1k38v1k39v1k3Av1k3Bv1k3Cv1k3Dv1k3Ev1k3Fv1k3Gv1k3Hv1k3Iv1k3Jv1k3Kv1k3Lv1k3Mv1k3Nv1k3Ov1k3Pv1",
   "k3Qv1k31v1k32v1k33v1k34v1k35v1k36v1k37v1k38v1k39v1k3Av1k3Bv1k3Cv1k3Dv1k3Ev1k3Fv1k3Gv1k3Hv1k3",
   "Iv1k3Jv1k3Kv1k3Lv1k3Mv1k3Nv1k3Ov1k3Pv1k3Qv1k31v1k32v1k33v1k34v1k35v1k36v1k37v1k38v1k39v1k3Av",
   "1k3Bv1k3Cv1k3Dv1k3Ev1k3Fv1k3Gv1k3Hv1k3Iv1k3Jv1k3Kv1k3Lv1k3Mv1k3Nv1k3Ov1k3Pv1k3Qv1k31v1k32v1k",
   "33v1k34v1k35v1k36v1k37v1k38v1k39v1k3Av1k3Bv1k3Cv1k3Dv1k3Ev1k3Fv1k3Gv1k3Hv1k3Iv1k3Jv1k3Kv1k3L",
   "v1k3Mv1k3Nv1k3Ov1k3Pv1k3Qv1k31v1k32v1k33v1k34v1k35v1k36v1k37v1k38v1k39v1k3Av1k3Bv1k3Cv1k3Dv1",
   "k3Ev1k3Fv1k3Gv1k3Hv1k3Iv1k3Jv1k3Kv1k3Lv1k3Mv1k3Nv1k3Ov1k3Pv1k3Qv1k31v1k32v1k33v1k34v1k35v1k3",
   "6v1k37v1k38v1k39v1k3Av1k3Bv1k3Cv1k3Dv1k3Ev1k3Fv1k3Gv1k3Hv1k3Iv1k3Jv1k3Kv1k3Lv1k3Mv1k3Nv1k3Ov",
   "1k3Pv1k3Qv1k31v1k32v1k33v1k34v1k35v1k36v1k37v1k38v1k39v1k3Av1k3Bv1k3Cv1k3Dv1k3Ev1k3Fv1k3Gv1k",
   "3Hv1k3Iv1k3Jv1k3Kv1k3Lv1k3Mv1k3Nv1k3Ov1k3Pv1k3Qv1k31v1k32v1k33v1k34v1k35v1k36v1k37v1k38v1k39",
   "v1k3Av1k3Bv1k3Cv1k3Dv1k3Ev1k3Fv1k3Gv1k3Hv1k3Iv1k3Jv1k3Kv1k3Lv1k3Mv1k3Nv1k3Ov1k3Pv1k3Qv1k9Hv1",
   "kHNv3kTHv1kTIv1kTJv1kTKv1kTLv1kTMv1kTNv1kTOv1kTPv1kTQv1kTRv1kTSv1kTTv1kTUv1kTVv1kU0v1kU1v1kT",
   "Ov1kU3v1kU4v1kU5v1kU6v1kU7v1kU8v1kU9v1k8G7v1kTHv1kTIv1kTJv1kTKv1kTLv1kTMv1kTNv1kTOv1kTPv1kTQ",
   "v1kTRv1kTSv1kTTv1kTUv1kTVv1kU0v1kU1v1kU3v1kU3v1kU4v1kU5v1kU6v1kU7v1kU8v1kU9v1k8G2v1kTLv1kTOv",
   "1kTQv1kU6v1kU1v1kU0v1kTHv1kTIv1kTJv1kTKv1kTLv1kTMv1kTNv1kTOv1kTPv1kTQv1kTRv1kTSv1kTTv1kTUv1k",
   "TVv1kU0v1kU1v1kTOv1kU3v1kU4v1kU5v1kU6v1kU7v1kU8v1kU9v1k8G7v1kTHv1kTIv1kTJv1kTKv1kTLv1kTMv1kT",
   "Nv1kTOv1kTPv1kTQv1kTRv1kTSv1kTTv1kTUv1kTVv1kU0v1kU1v1kU3v1kU3v1kU4v1kU5v1kU6v1kU7v1kU8v1kU9v",
   "1k8G2v1kTLv1kTOv1kTQv1kU6v1kU1v1kU0v1kTHv1kTIv1kTJv1kTKv1kTLv1kTMv1kTNv1kTOv1kTPv1kTQv1kTRv1",
   "kTSv1kTTv1kTUv1kTVv1kU0v1kU1v1kTOv1kU3v1kU4v1kU5v1kU6v1kU7v1kU8v1kU9v1k8G7v1kTHv1kTIv1kTJv1k",
   "TKv1kTLv1kTMv1kTNv1kTOv1kTPv1kTQv1kTRv1kTSv1kTTv1kTUv1kTVv1kU0v1kU1v1kU3v1kU3v1kU4v1kU5v1kU6",
   "v1kU7v1kU8v1kU9v1k8G2v1kTLv1kTOv1kTQv1kU6v1kU1v1kU0v1kTHv1kTIv1kTJv1kTKv1kTLv1kTMv1kTNv1kTOv",
   "1kTPv1kTQv1kTRv1kTSv1kTTv1kTUv1kTVv1kU0v1kU1v1kTOv1kU3v1kU4v1kU5v1kU6v1kU7v1kU8v1kU9v1k8G7v1",
   "kTHv1kTIv1kTJv1kTKv1kTLv1kTMv1kTNv1kTOv1kTPv1kTQv1kTRv1kTSv1kTTv1kTUv1kTVv1kU0v1kU1v1kU3v1kU",
   "3v1kU4v1kU5v1kU6v1kU7v1kU8v1kU9v1k8G2v1kTLv1kTOv1kTQv1kU6v1kU1v1kU0v1kTHv1kTIv1kTJv1kTKv1kTL",
   "v1kTMv1kTNv1kTOv1kTPv1kTQv1kTRv1kTSv1kTTv1kTUv1kTVv1kU0v1kU1v1kTOv1kU3v1kU4v1kU5v1kU6v1kU7v1",
   "kU8v1kU9v1k8G7v1kTHv1kTIv1kTJv1kTKv1kTLv1kTMv1kTNv1kTOv1kTPv1kTQv1kTRv1kTSv1kTTv1kTUv1kTVv1k",
   "U0v1kU1v1kU3v1kU3v1kU4v1kU5v1kU6v1kU7v1kU8v1kU9v1k8G2v1kTLv1kTOv1kTQv1kU6v1kU1v1kU0v1kUTv1kU",
   "Tv3k1Gv1k1Hv1k1Iv1k1Jv1k1Kv1k1Lv1k1Mv1k1Nv1k1Ov1k1Pv1k1Gv1k1Hv1k1Iv1k1Jv1k1Kv1k1Lv1k1Mv1k1Nv",
   "1k1Ov1k1Pv1k1Gv1k1Hv1k1Iv1k1Jv1k1Kv1k1Lv1k1Mv1k1Nv1k1Ov1k1Pv1k1Gv1k1Hv1k1Iv1k1Jv1k1Kv1k1Lv1k",
   "1Mv1k1Nv1k1Ov1k1Pv1k1Gv1k1Hv1k1Iv1k1Jv1k1Kv1k1Lv1k1Mv1k1Nv1k1Ov1k1Pv21Hk11Gv1k11Hv1k11Iv1k11",
   "Jv1k11Kv1k11Lv1k11Mv1k11Nv1k11Ov1k11Qv1k11Rv1k11Sv1k11Uv1k11Vv1k120v1k121v1k122v1k123v1k124v",
   "1k125v1k126v1k127v1k128v1k12Bv1k12Dv1k12Ev1k19K9v1k16Pv1k12Mv1k12Ov1k179v1k15Fv1k16Fv1k11Gv1",
   "k11Hv1k11Iv1k11Jv1k11Kv1k11Lv1k11Mv1k11Nv1k11Ov1k11Qv1k11Rv1k11Uv1k11Vv1k121v1k123v1k124v1k1",
   "25v1k126v1k127v1k128v1k12Av1k12Bv1k14Hv1k12Mv1k12Lv1k12Vv1k15Bv1k19IHv1k15Hv24Jk3Q92v1k3Q93v",
   "1k3Q94v1k3Q95v1k3Q96v1k3Q97v1k3Q98v1k3Q99v1k3Q9Av1k3Q9Bv1k3Q9Cv1k3Q9Dv1k3Q9Ev1k3Q9Fv1k3Q9Gv1",
   "k3Q9Hv1k3Q9Iv1k3Q9Jv1k3Q9Kv1k3Q9Lv1k3Q9Mv1k3Q9Nv1k3Q9Ov1k3Q9Pv1k3Q9Qv1k3Q9Rv1k3Q9Sv1k3Q9Tv1k",
   "3Q9Uv1k3Q9Vv1k3QA0v1k3QA1v1k3QA2v1k3QA3v16Vk1H7v1k1H8v1k1HCv1k1HFv2k1I8v1k1HIv1k1HDv1k1HNv1k",
   "1IAv1k1I3v1k1I4v1k1I5v1k1I6v1k1HJv1k1HPv1k1I1v1k1HLv1k1I2v1k1HHv1k1HKv1k1HAv1k1HBv1k1HEv1k1H",
   "Gv1k1HMv1k1HOv1k1HQv1k1JEv1k1LQv1k1L1v1k1JFv2k1H8v1k1HCv2k1I7v3k1HDv2k1IAv1k1I3v1k1I4v1k1I5v",
   "1k1I6v1k1HJv1k1HPv1k1I1v1k1HLv1k1I2v2k1HKv1k1HAv1k1HBv1k1HEv2k1HMv2k1HQv7k1HCv5k1HDv2k1IAv2k",
   "1I4v2k1I6v1k1HJv1k1HPv2k1HLv1k1I2v2k1HKv3k1HEv2k1HMv2k1HQv2k1LQv2k1JFv2k1H8v1k1HCv2k1I7v3k1H",
   "Dv1k1HNv1k1IAv1k1I3v2k1I5v1k1I6v1k1HJv1k1HPv1k1I1v1k1HLv1k1I2v2k1HKv1k1HAv1k1HBv1k1HEv2k1HMv",
   "1k1HOv1k1HQv1k1JEv2k1L1v2k1H7v1k1H8v1k1HCv1k1HFv1k1I7v1k1I8v1k1HIv1k1HDv1k1HNv1k1IAv2k1I4v1k",
   "1I5v1k1I6v1k1HJv1k1HPv1k1I1v1k1HLv1k1I2v1k1HHv1k1HKv1k1HAv1k1HBv1k1HEv1k1HGv1k1HMv1k1HOv1k1H",
   "Qv6k1H8v1k1HCv1k1HFv2k1I8v1k1HIv1k1HDv1k1HNv1k1IAv2k1I4v1k1I5v1k1I6v1k1HJv1k1HPv1k1I1v1k1HLv",
   "1k1I2v1k1HHv1k1HKv1k1HAv1k1HBv1k1HEv1k1HGv1k1HMv1k1HOv1k1HQvI6k1Gv1Cv1k1Hv1Cv1k1Iv1Cv1k1Jv1C",
   "v1k1Kv1Cv1k1Lv1Cv1k1Mv1Cv1k1Nv1Cv1k1Ov1Cv1k1Pv1Cv6k18v31v19v1k18v32v19v1k18v33v19v1k18v34v19",
   "v1k18v35v19v1k18v36v19v1k18v37v19v1k18v38v19v1k18v39v19v1k18v3Av19v1k18v3Bv19v1k18v3Cv19v1k1",
   "8v3Dv19v1k18v3Ev19v1k18v3Fv19v1k18v3Gv19v1k18v3Hv19v1k18v3Iv19v1k18v3Jv19v1k18v3Kv19v1k18v3L",
   "v19v1k18v3Mv19v1k18v3Nv19v1k18v3Ov19v1k18v3Pv19v1k18v3Qv19v1kC0Kv3JvC0Lv1k33v1k3Iv1k33v34v1k",
   "3Nv3Qv2k31v1k32v1k33v1k34v1k35v1k36v1k37v1k38v1k39v1k3Av1k3Bv1k3Cv1k3Dv1k3Ev1k3Fv1k3Gv1k3Hv1",
   "k3Iv1k3Jv1k3Kv1k3Lv1k3Mv1k3Nv1k3Ov1k3Pv1k3Qv1k38v3Mv1k3Dv3Mv1k3Jv34v1k3Jv3Jv1k3Gv3Gv3Mv1k3Nv",
   "33vRk3Dv33v1k3Dv34v1k3Dv3Iv14k34v3Av3GkC3RvC2Bv1kC5JvC5Jv1kC5LvEkOIBv1kMQNv1kKUCv1kC67v1kJKC",
   "v1kM8Qv1k12F3v1kM99v1kJL4v1kPH0v1kS91v1kPCPv1kKIDv1kNSCv1kKCDv1kPDGv1kKGTv1kVA2v1kT8Vv1k1359",
   "v1kM7Gv1kL1Pv1kROKv1kOKLv1kOQLv1kJG0v1kJG9v1k142Av1kNF6v1kJHDv1kKVJv1kOO7v1k13BGv1kOIJv1kUC1",
   "v1kUJQv1kL08v1kRK0v1kPO9v1kPO8v1kT9Jv1kKJIv1kLDMv1k14ADv5kC0KvPPCvC0Lv1kC0KvJG9vC0Lv1kC0KvJK",
   "CvC0Lv1kC0KvMS9vC0Lv1kC0KvS5PvC0Lv1kC0KvOIJvC0Lv1kC0KvTMNvC0Lv1kC0KvKMTvC0Lv1kC0KvPANvC0Lv8k",
   "NSNv1kKVFv2CVk1Gv1k1Hv1k1Iv1k1Jv1k1Kv1k1Lv1k1Mv1k1Nv1k1Ov1k1Pv1V07kJHTv1kJHOv1kJI1v1k4092v1k",
   "JR0v1kJTEv1kJTRv1kK02v1kK3Qv1kK4Pv1kK77v1kK6Fv1kD4Uv1k41HQv1kKADv1kKAKv1kKB4v1kKBNv1k418Sv1k",
   "D5Pv1kKB7v1kKCDv1k41ABv1kKCNv1kKD4v1kJMCv1kKDCv1kKDLv1k54EVv1kKFLv1kKG3v1kD6Vv1kKHRv1kKI6v1k",
   "KJIv1kKJNv1kD8Lv1kKM7v1kKM9v1kKN4v1kKNQv1kKO5v1kKO6v1kKONv1kKQ9v1kKQHv1kKQQv1kKRJv1kKRTv1kKR",
   "Vv1kKRVv1kKRVv1k42HCv1kS3Gv1kKUAv1kKUVv1k42R3v1kKVBv1kKVHv1kL06v1kL4Uv1kL1Ov1kL28v1kL38v1kL5",
   "2v1kL7Mv1kL8Gv1kLAJv1kLB3v1kLC4v1kLC4v1kLCPv1kLDBv1kLDJv1kLE2v1kLOMv1kLG6v1kLONv1kLIHv1kLJKv",
   "1kKG7v1kM7Ev1kLUEv1kLVKv1kM0Dv1kLSBv1kM1Iv1kM1Hv1kM5Cv1k4574v1kM7Iv1kM7Nv1kM86v1kM8Qv1kM92v1",
   "kMB2v1k45L8v1k45NAv1kMFCv1kMGRv1kMH7v1kMEOv1kMJ6v1kDNEv2kMO8v1kMPUv1kMPUv1k46E8v1kMU3v1kMUOv",
   "1kMV7v1kMVJv1k46OOv1kMVVv1kN06v2kN12v1kDS1v1kN30v1kN3Ev1kN60v1kN4Dv1k47F4v1kNA3v1k47F6v1kNBE",
   "v1kNBBv1kNBSv1kNF1v1kNF2v1kE1Fv1kNFTv1kNH8v1kNHTv1kNJ9v1kE32v1k48C3v1kE3Sv1kNLGv1kNLJv1kNLMv",
   "1kNMAv1k58SIv1kNNUv1k48PHv1k48PHv1k10G1v1kNP2v1kNP2v1kE67v1k4CLOv1k4OEQv1kNR2v1kNRBv1kE73v1k",
   "NSQv1kNUDv1kNUNv1kNVPv1kO41v1kE9Qv1kE8Sv1kO4Kv1k49MKv1kO67v1kOA8v1kOACv1kOAEv1kOACv1kOBQv1kO",
   "CEv1kODIv1kOD4v1kODFv1kOEUv1kOFIv1kOFMv1kOGGv1kOGRv1kOITv1kOLHv1kOMKv1kOQGv1k4AOCv1kOPTv1kON",
   "Sv1kOR8v1kOS3v1kOV4v1k4AVHv1kP12v1kOU5v1kOT9v1kEHEv1kP39v1kP3Uv1kP4Tv1kP3Nv1kEJCv1kPAFv1kPBC",
   "v1k4C0Av1kPF3v1kPNOv1kPI9v1kEOPv1kPKHv1kEO8v1kEN4v1kKCIv1kKCLv1kPO0v1kPKSv1k105Dv1kGUPv1kPON",
   "v1kPORv1kPP1v1kPQUv1kPQJv1k4CU3v1kEQ9v1kPVQv1kPS5v1kQ2Iv1kQ45v1k4D3Dv1kQ4Ev1kQ0Vv1kQ8Kv1kEST",
   "v1kQA2v1kQD3v1kQFAv1kQL8v1k4DL3v1kQMRv1kF0Ov1kQP1v1k4E57v1kQQKv1kF2Ev1kQRIv1kQSVv1kQTQv1kQTR",
   "v1k4EKDv1k478Bv1k4ENQv1kR2Ev1k4F5Sv1kR5Vv1kR6Dv1kR37v1kR8Mv1kR9Uv1kRBNv1kRA1v1kRB9v1kRBOv1kR",
   "C5v1k4F8Uv1kR9Kv1kRHFv1kRJEv1kF9Jv1kRMBv1kRM7v1k4FMHv1kRFPv1kRREv1k4FQUv1k4FSEv1kRU6v1kS1Pv1",
   "kS0Uv1kS0Rv1kFCMv1kS2Av1kS3Tv1kS3Nv1kS5Dv1k4195v1kSA5v1k4GJ3v1kSCSv2kSH8v1kSHLv1kSIGv1k4HG8v",
   "1kSK0v1kSKLv1k4HPLv1k4I0Kv1kSRQv1kSSBv1kFLCv1kST5v1kFLOv1kFLOv1kT27v1kT2Sv1kT3Hv1kT45v1kT6Av",
   "1kFORv1kT94v1k4J1Mv1kT9Uv1k4J4Iv1kTBGv1k48CVv1kTGGv1k4JT1v1k4JTOv1k4K24v1kFVSv1kG08v1kTNKv1k",
   "4K7Jv1k4K7Iv1k4K8Pv1k4K9Jv1kTOUv1kTOVv1kTOVv1kTQAv1kG1Pv1kTSBv1kG26v1kG4Mv1k4L0Tv1kU2Ev1kU4C",
   "v1kU6Cv1kG73v1k4LH6v1kUAMv1k4LKQv1k4LM5v1kUCFv1kUFBv1kG9Fv1kUI0v1kUIAv1kUIFv1k4MBSv1k4ML7v1k",
   "4ML7v2kGG2v1k4MTBv1kUU6v1kUU9v1kGH7v1k4N40v1kV6Iv1kGL0v1kV78v1kV73v1kV80v1k4NS6v1kVB3v1kGO1v",
   "1kVE7v1kVG2v1kVI5v1kGPKv1k4OH8v1k4OI7v1kGQPv1k4OMPv1kVRQv1k4OPUv1kVSLv1kVVQv1k1005v1k4P6Qv1k",
   "4P93v1k1030v1k4PD8v1k103Gv1k4CQVv1kGULv1k105Iv1k1083v1kH0Bv1k109Uv1kMLLv1k4PT7v1k4PTLv1k4CSJ",
   "v1k4CSSv1k10G1v1k10G4v1k13SUv1kH3Bv1k10KHv1k10KBv1k10KTv1kKLJv1k10LHv1k10LJv1k10LTv1k10N6v1k",
   "4QPSv1k10N5v1k10OTv1k10R3v1k10TDv1k10P3v1k10TTv1k10V7v1k112Nv1k10QJv1k10UAv1k10UCv1k10USv1k4",
   "R1Mv1k4RBBv1k4R6Lv1kH9Bv1k117Hv1k117Jv1k118Mv1k4SUAv1k11B4v1k4RPCv1kHATv1kHB1v1k4RTHv1k4S6Iv",
   "1kHBBv1k11IGv1k11ISv1k11J7v1k11J9v1k11L9v1k11K8v1k11OEv1k11N2v1k11RPv1k11P8v1k11RBv1k11S6v2k",
   "11V1v1k1201v1kHFPv1k1230v1k1233v1k4TJ7v1k126Nv1k126Uv1kHHLv1k127Qv1kD5Rv1k4U5Ev1k4UB6v1kHLUv",
   "1kHM7v1k12L0v1k12NDv1k12SAv1k132Lv1k4V58v1k135Bv1k1361v1k138Rv1k13BNv1k4VPFv1k4204v1k13EBv1k",
   "13DSv1k13FGv1k426Uv1k13MKv1k13POv1k51EIv1k51FDv1k144Kv1k147Hv1k148Hv1k51PEv1k148Rv1k14HOv1k1",
   "4MNv1k14MOv1k14JSv1k14VPv1k150Lv1k52VQv1k15CBv1kICLv1k15DNv1k53BNv1kIF6v1k15M3v1kNDIv1k15P3v",
   "1k54A5v1k54GQv1kIJEv1kIJMv1k15V0v1k550Av1kILIv1k554Mv1k160Bv1k160Bv1k1619v1k55DMv1k1672v1kIP",
   "Jv1k1699v1k16D7v1k16E2v1k16FUv1kIUEv1k56PGv1k16OIv1k1720v1k177Tv1kJ6Ev1kJ7Dv1k17B7v1k586Ev1k",
   "J7Ov1k5885v1k58GEv1k58KHv1k17LRv1kJAMv1k17NPv1k17NUv1k17O5v1k17OFv1k17OMv1k17PRv1k59G0v"]

/-- What becomes of a blank character. -/
def blankFate (c : Char) : Fate :=
  let n := c.toNat
  if n ≤ 0x20 then .keep
  else if n = 0x85 ∨ n = 0x1680 ∨ n = 0x2028 ∨ n = 0x2029 then .refuse
  else .replace [' ']

/-- What becomes of a character. -/
def fate (c : Char) : Fate :=
  if Text.isBlank c then blankFate c
  else
    match replacements.find? c.toNat with
    | some cs => .replace (cs.map Char.ofNat)
    | none =>
      match fateRuns.value c.toNat with
      | 0 => .keep
      | 1 => .drop
      | _ => .refuse

end Accounts.Domain
