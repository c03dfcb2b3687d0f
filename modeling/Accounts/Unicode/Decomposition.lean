import Accounts.Unicode.Runs
/-!
# Canonical decompositions

The table lists the characters with a canonical decomposition, as of Unicode 15,
each with the one or two characters that it is made of.  A part may have a
decomposition of its own.  Some characters made of two are never composed again;
they are listed too.  Hangul syllables are not in the table: they are composed by
arithmetic.
-/

namespace Accounts.Unicode

/-- The canonical decompositions, one step deep. -/
def decompositions : Entries := Entries.unpack
  ["60k21vO0v1k21vO1v1k21vO2v1k21vO3v1k21vO8v1k21vOAv2k23vP7v1k25vO0v1k25vO1v1k25vO2v1k25vO8v1k2",
   "9vO0v1k29vO1v1k29vO2v1k29vO8v2k2EvO3v1k2FvO0v1k2FvO1v1k2FvO2v1k2FvO3v1k2FvO8v3k2LvO0v1k2LvO1",
   "v1k2LvO2v1k2LvO8v1k2PvO1v3k31vO0v1k31vO1v1k31vO2v1k31vO3v1k31vO8v1k31vOAv2k33vP7v1k35vO0v1k3",
   "5vO1v1k35vO2v1k35vO8v1k39vO0v1k39vO1v1k39vO2v1k39vO8v2k3EvO3v1k3FvO0v1k3FvO1v1k3FvO2v1k3FvO3",
   "v1k3FvO8v3k3LvO0v1k3LvO1v1k3LvO2v1k3LvO8v1k3PvO1v2k3PvO8v1k21vO4v1k31vO4v1k21vO6v1k31vO6v1k2",
   "1vP8v1k31vP8v1k23vO1v1k33vO1v1k23vO2v1k33vO2v1k23vO7v1k33vO7v1k23vOCv1k33vOCv1k24vOCv1k34vOC",
   "v3k25vO4v1k35vO4v1k25vO6v1k35vO6v1k25vO7v1k35vO7v1k25vP8v1k35vP8v1k25vOCv1k35vOCv1k27vO2v1k3",
   "7vO2v1k27vO6v1k37vO6v1k27vO7v1k37vO7v1k27vP7v1k37vP7v1k28vO2v1k38vO2v3k29vO3v1k39vO3v1k29vO4",
   "v1k39vO4v1k29vO6v1k39vO6v1k29vP8v1k39vP8v1k29vO7v4k2AvO2v1k3AvO2v1k2BvP7v1k3BvP7v2k2CvO1v1k3",
   "CvO1v1k2CvP7v1k3CvP7v1k2CvOCv1k3CvOCv5k2EvO1v1k3EvO1v1k2EvP7v1k3EvP7v1k2EvOCv1k3EvOCv4k2FvO4",
   "v1k3FvO4v1k2FvO6v1k3FvO6v1k2FvOBv1k3FvOBv3k2IvO1v1k3IvO1v1k2IvP7v1k3IvP7v1k2IvOCv1k3IvOCv1k2",
   "JvO1v1k3JvO1v1k2JvO2v1k3JvO2v1k2JvP7v1k3JvP7v1k2JvOCv1k3JvOCv1k2KvP7v1k3KvP7v1k2KvOCv1k3KvOC",
   "v3k2LvO3v1k3LvO3v1k2LvO4v1k3LvO4v1k2LvO6v1k3LvO6v1k2LvOAv1k3LvOAv1k2LvOBv1k3LvOBv1k2LvP8v1k3",
   "LvP8v1k2NvO2v1k3NvO2v1k2PvO2v1k3PvO2v1k2PvO8v1k2QvO1v1k3QvO1v1k2QvO7v1k3QvO7v1k2QvOCv1k3QvOC",
   "v12k2FvORv1k3FvORvEk2LvORv1k3LvORvTk21vOCv1k31vOCv1k29vOCv1k39vOCv1k2FvOCv1k3FvOCv1k2LvOCv1k",
   "3LvOCv1k6SvO4v1k7SvO4v1k6SvO1v1k7SvO1v1k6SvOCv1k7SvOCv1k6SvO0v1k7SvO0v2k64vO4v1k74vO4v1kH6vO",
   "4v1kH7vO4v1k66vO4v1k76vO4v3k27vOCv1k37vOCv1k2BvOCv1k3BvOCv1k2FvP8v1k3FvP8v1kFAvO4v1kFBvO4v1k",
   "DNvOCv1kKIvOCv1k3AvOCv4k27vO1v1k37vO1v3k2EvO0v1k3EvO0v1k65vO1v1k75vO1v1k66vO1v1k76vO1v1k6OvO",
   "1v1k7OvO1v1k21vOFv1k31vOFv1k21vOHv1k31vOHv1k25vOFv1k35vOFv1k25vOHv1k35vOHv1k29vOFv1k39vOFv1k",
   "29vOHv1k39vOHv1k2FvOFv1k3FvOFv1k2FvOHv1k3FvOHv1k2IvOFv1k3IvOFv1k2IvOHv1k3IvOHv1k2LvOFv1k3LvO",
   "Fv1k2LvOHv1k3LvOHv1k2JvP6v1k3JvP6v1k2KvP6v1k3KvP6v3k28vOCv1k38vOCv7k21vO7v1k31vO7v1k25vP7v1k",
   "35vP7v1k6MvO4v1k7MvO4v1k6LvO4v1k7LvO4v1k2FvO7v1k3FvO7v1kHEvO4v1kHFvO4v1k2PvO4v1k3PvO4v8DkO0v",
   "1kO1v2kOJv1kO8vO1v1GkLPvAk1Rv7k58vO1v1kSHvO1v1k5Nv1kSLvO1v1kSNvO1v1kSPvO1v2kSVvO1v2kT5vO1v1k",
   "T9vO1v1kUAvO1vQkSPvO8v1kT5vO8v1kTHvO1v1kTLvO1v1kTNvO1v1kTPvO1v1kUBvO1vQkTPvO8v1kU5vO8v1kTVvO",
   "1v1kU5vO1v1kU9vO1v5kUIvO1v1kUIvO8v1Ck10LvO0v1k10LvO8v2k10JvO1v4k106vO8v5k10QvO1v1k10OvO0v1k1",
   "13vO6vBk10OvO6v10k11OvO6vNk11LvO0v1k11LvO8v2k11JvO1v4k12MvO8v5k11QvO1v1k11OvO0v1k123vO6vOk13",
   "KvOFv1k13LvOFv2Ak10MvO6v1k11MvO6vEk10GvO6v1k11GvO6v1k10GvO8v1k11GvO8v3k10LvO6v1k11LvO6v3k16O",
   "vO8v1k16PvO8v1k10MvO8v1k11MvO8v1k10NvO8v1k11NvO8v3k10OvO4v1k11OvO4v1k10OvO8v1k11OvO8v1k10UvO",
   "8v1k11UvO8v3k178vO8v1k179vO8v1k11DvO8v1k12DvO8v1k113vO4v1k123vO4v1k113vO8v1k123vO8v1k113vOBv",
   "1k123vOBv1k117vO8v1k127vO8v3k11BvO8v1k12BvO8v99k1H7v1IJv1k1H7v1IKv1k1I8v1IKv1k1H7v1ILv1k1IAv",
   "1IKv4Qk1MLv1IKv2k1M1v1IKvHk1MIv1IKvIMk298v29Sv8k29Gv29Sv3k29Jv29Sv14k28Lv29Sv1k28Mv29Sv1k28N",
   "v29Sv1k28Sv29Sv1k291v29Sv1k292v29Sv1k29Bv29Sv1k29Fv29Sv3Ck2E7v2DUv1k2E7v2ENvGk2D1v2DSv1k2D2v",
   "2DSv2k2DFv2DSv2Kk2HIv2HSv3k2HOv2HSv13k2GMv2HSv1k2GNv2HSv1k2GSv2HSv3k2HBv2HSv7Ak2Q7v2QMv3k2Q7",
   "v2PUv1k2Q7v2QNvGk2P1v2PSv1k2P2v2PSv1Nk2SIv2UNv1Mk2U6v2TUv1k2U7v2TUv1k2U6v2UNv3Sk326v32Mv3Ok3",
   "5Vv36Lv7k366v36Lv1k366v36Mv2k366v362v1k36Av36Lv3Vk3A6v39Uv1k3A7v39Uv1k3A6v3ANv4Ek3EPv3EAv2k3",
   "EPv3EFv1k3ESv3EAv1k3EPv3EVvB5k3Q2v3TNvAk3QCv3TNv5k3QHv3TNv5k3QMv3TNv5k3QRv3TNvDk3Q0v3TLvAk3R",
   "Hv3RIv2k3RHv3RKv1k3TIv3S0v2k3TJv3S0v9k3RHv3S0vIk3SIv3TNvAk3SSv3TNv5k3T1v3TNv5k3T6v3TNv5k3TBv",
   "3TNvDk3SGv3TLv3Dk415v41Ev2N0k6O5v6PLv2k6O7v6PLv2k6O9v6PLv2k6OBv6PLv2k6ODv6PLv4k6OHv6PLv19k6P",
   "Qv6PLv2k6PSv6PLv3k6PUv6PLv1k6PVv6PLv2k6Q2v6PLvLTk21vP5v1k31vP5v1k22vO7v1k32vO7v1k22vP3v1k32v",
   "P3v1k22vPHv1k32vPHv1k67vO1v1k77vO1v1k24vO7v1k34vO7v1k24vP3v1k34vP3v1k24vPHv1k34vPHv1k24vP7v1",
   "k34vP7v1k24vPDv1k34vPDv1k8IvO0v1k8JvO0v1k8IvO1v1k8JvO1v1k25vPDv1k35vPDv1k25vPGv1k35vPGv1kH8v",
   "O6v1kH9vO6v1k26vO7v1k36vO7v1k27vO4v1k37vO4v1k28vO7v1k38vO7v1k28vP3v1k38vP3v1k28vO8v1k38vO8v1",
   "k28vP7v1k38vP7v1k28vPEv1k38vPEv1k29vPGv1k39vPGv1k6FvO1v1k7FvO1v1k2BvO1v1k3BvO1v1k2BvP3v1k3Bv",
   "P3v1k2BvPHv1k3BvPHv1k2CvP3v1k3CvP3v1k7HMvO4v1k7HNvO4v1k2CvPHv1k3CvPHv1k2CvPDv1k3CvPDv1k2DvO1",
   "v1k3DvO1v1k2DvO7v1k3DvO7v1k2DvP3v1k3DvP3v1k2EvO7v1k3EvO7v1k2EvP3v1k3EvP3v1k2EvPHv1k3EvPHv1k2",
   "EvPDv1k3EvPDv1k6LvO1v1k7LvO1v1k6LvO8v1k7LvO8v1kACvO0v1kADvO0v1kACvO1v1kADvO1v1k2GvO1v1k3GvO1",
   "v1k2GvO7v1k3GvO7v1k2IvO7v1k3IvO7v1k2IvP3v1k3IvP3v1k7IQvO4v1k7IRvO4v1k2IvPHv1k3IvPHv1k2JvO7v1",
   "k3JvO7v1k2JvP3v1k3JvP3v1kAQvO7v1kARvO7v1kB0vO7v1kB1vO7v1k7J2vO7v1k7J3vO7v1k2KvO7v1k3KvO7v1k2",
   "KvP3v1k3KvP3v1k2KvPHv1k3KvPHv1k2KvPDv1k3KvPDv1k2LvP4v1k3LvP4v1k2LvPGv1k3LvPGv1k2LvPDv1k3LvPD",
   "v1kB8vO1v1kB9vO1v1kBAvO8v1kBBvO8v1k2MvO3v1k3MvO3v1k2MvP3v1k3MvP3v1k2NvO0v1k3NvO0v1k2NvO1v1k3",
   "NvO1v1k2NvO8v1k3NvO8v1k2NvO7v1k3NvO7v1k2NvP3v1k3NvP3v1k2OvO7v1k3OvO7v1k2OvO8v1k3OvO8v1k2PvO7",
   "v1k3PvO7v1k2QvO2v1k3QvO2v1k2QvP3v1k3QvP3v1k2QvPHv1k3QvPHv1k38vPHv1k3KvO8v1k3NvOAv1k3PvOAv2kB",
   "VvO7v5k21vP3v1k31vP3v1k21vO9v1k31vO9v1k62vO1v1k72vO1v1k62vO0v1k72vO0v1k62vO9v1k72vO9v1k62vO3",
   "v1k72vO3v1k7L0vO2v1k7L1vO2v1k82vO1v1k83vO1v1k82vO0v1k83vO0v1k82vO9v1k83vO9v1k82vO3v1k83vO3v1",
   "k7L0vO6v1k7L1vO6v1k25vP3v1k35vP3v1k25vO9v1k35vO9v1k25vO3v1k35vO3v1k6AvO1v1k7AvO1v1k6AvO0v1k7",
   "AvO0v1k6AvO9v1k7AvO9v1k6AvO3v1k7AvO3v1k7LOvO2v1k7LPvO2v1k29vO9v1k39vO9v1k29vP3v1k39vP3v1k2Fv",
   "P3v1k3FvP3v1k2FvO9v1k3FvO9v1k6KvO1v1k7KvO1v1k6KvO0v1k7KvO0v1k6KvO9v1k7KvO9v1k6KvO3v1k7KvO3v1",
   "k7MCvO2v1k7MDvO2v1kD0vO1v1kD1vO1v1kD0vO0v1kD1vO0v1kD0vO9v1kD1vO9v1kD0vO3v1kD1vO3v1kD0vP3v1kD",
   "1vP3v1k2LvP3v1k3LvP3v1k2LvO9v1k3LvO9v1kDFvO1v1kDGvO1v1kDFvO0v1kDGvO0v1kDFvO9v1kDGvO9v1kDFvO3",
   "v1kDGvO3v1kDFvP3v1kDGvP3v1k2PvO0v1k3PvO0v1k2PvP3v1k3PvP3v1k2PvO9v1k3PvO9v1k2PvO3v1k3PvO3v7kT",
   "HvOJv1kTHvOKv1k7O0vO0v1k7O1vO0v1k7O0vO1v1k7O1vO1v1k7O0vQ2v1k7O1vQ2v1kSHvOJv1kSHvOKv1k7O8vO0v",
   "1k7O9vO0v1k7O8vO1v1k7O9vO1v1k7O8vQ2v1k7O9vQ2v1kTLvOJv1kTLvOKv1k7OGvO0v1k7OHvO0v1k7OGvO1v1k7O",
   "HvO1v3kSLvOJv1kSLvOKv1k7OOvO0v1k7OPvO0v1k7OOvO1v1k7OPvO1v3kTNvOJv1kTNvOKv1k7P0vO0v1k7P1vO0v1",
   "k7P0vO1v1k7P1vO1v1k7P0vQ2v1k7P1vQ2v1kSNvOJv1kSNvOKv1k7P8vO0v1k7P9vO0v1k7P8vO1v1k7P9vO1v1k7P8",
   "vQ2v1k7P9vQ2v1kTPvOJv1kTPvOKv1k7PGvO0v1k7PHvO0v1k7PGvO1v1k7PHvO1v1k7PGvQ2v1k7PHvQ2v1kSPvOJv1",
   "kSPvOKv1k7POvO0v1k7PPvO0v1k7POvO1v1k7PPvO1v1k7POvQ2v1k7PPvQ2v1kTVvOJv1kTVvOKv1k7Q0vO0v1k7Q1v",
   "O0v1k7Q0vO1v1k7Q1vO1v3kSVvOJv1kSVvOKv1k7Q8vO0v1k7Q9vO0v1k7Q8vO1v1k7Q9vO1v3kU5vOJv1kU5vOKv1k7",
   "QGvO0v1k7QHvO0v1k7QGvO1v1k7QHvO1v1k7QGvQ2v1k7QHvQ2v2kT5vOKv2k7QPvO0v2k7QPvO1v2k7QPvQ2v1kU9vO",
   "Jv1kU9vOKv1k7R0vO0v1k7R1vO0v1k7R0vO1v1k7R1vO1v1k7R0vQ2v1k7R1vQ2v1kT9vOJv1kT9vOKv1k7R8vO0v1k7",
   "R9vO0v1k7R8vO1v1k7R9vO1v1k7R8vQ2v1k7R9vQ2v1kTHvO0v1kTCv1kTLvO0v1kTDv1kTNvO0v1kTEv1kTPvO0v1kT",
   "Fv1kTVvO0v1kUCv1kU5vO0v1kUDv1kU9vO0v1kUEv3k7O0vQ5v1k7O1vQ5v1k7O2vQ5v1k7O3vQ5v1k7O4vQ5v1k7O5v",
   "Q5v1k7O6vQ5v1k7O7vQ5v1k7O8vQ5v1k7O9vQ5v1k7OAvQ5v1k7OBvQ5v1k7OCvQ5v1k7ODvQ5v1k7OEvQ5v1k7OFvQ5",
   "v1k7P0vQ5v1k7P1vQ5v1k7P2vQ5v1k7P3vQ5v1k7P4vQ5v1k7P5vQ5v1k7P6vQ5v1k7P7vQ5v1k7P8vQ5v1k7P9vQ5v1",
   "k7PAvQ5v1k7PBvQ5v1k7PCvQ5v1k7PDvQ5v1k7PEvQ5v1k7PFvQ5v1k7R0vQ5v1k7R1vQ5v1k7R2vQ5v1k7R3vQ5v1k7",
   "R4vQ5v1k7R5vQ5v1k7R6vQ5v1k7R7vQ5v1k7R8vQ5v1k7R9vQ5v1k7RAvQ5v1k7RBvQ5v1k7RCvQ5v1k7RDvQ5v1k7RE",
   "vQ5v1k7RFvQ5v1kTHvO6v1kTHvO4v1k7RGvQ5v1kTHvQ5v1kTCvQ5v2kTHvQ2v1k7TMvQ5v1kSHvO6v1kSHvO4v1kSHv",
   "O0v1kS6v1kSHvQ5v2kTPv3k58vQ2v1k7RKvQ5v1kTNvQ5v1kTEvQ5v2kTNvQ2v1k7U6vQ5v1kSLvO0v1kS8v1kSNvO0v",
   "1kS9v1kSNvQ5v1k7TVvO0v1k7TVvO1v1k7TVvQ2v1kTPvO6v1kTPvO4v1kUAvO0v1kSGv3kTPvQ2v1kUAvQ2v1kSPvO6",
   "v1kSPvO4v1kSPvO0v1kSAv2k7VUvO0v1k7VUvO1v1k7VUvQ2v1kU5vO6v1kU5vO4v1kUBvO0v1kTGv1kU1vOJv1kU1vO",
   "Kv1kU5vQ2v1kUBvQ2v1kT5vO6v1kT5vO4v1kT5vO0v1kSEv1kT1vOKv1k58vO0v1kS5v1k30v3k7RSvQ5v1kU9vQ5v1k",
   "UEvQ5v2kU9vQ2v1k7VMvQ5v1kSVvO0v1kSCv1kT9vO0v1kSFv1kT9vQ5v1k5Kv3k802v1k803v95kT9v4k2Bv1k65v3F",
   "k8CGvPOv1k8CIvPOvJk8CKvPOvVk8EGvPOv1k8EKvPOv1k8EIvPOv1Lk8G3vPOv5k8G8vPOv3k8GBvPOvOk8H3vPOv2k",
   "8H5vPOvRk8HSvPOv3k8I3vPOv3k8I5vPOv2k8I8vPOvNk1TvPOv2k8J1vPOvBk8IDvPOv1k1SvPOv1k1UvPOv1k8J4vP",
   "Ov1k8J5vPOv3k8JIvPOv1k8JJvPOv3k8JMvPOv1k8JNvPOv7k8JQvPOv1k8JRvPOv3k8K2vPOv1k8K3vPOv3k8K6vPOv",
   "1k8K7vPOv13k8L2vPOv1k8L8vPOv1k8L9vPOv1k8LBvPOv1Hk8JSvPOv1k8JTvPOv1k8KHvPOv1k8KIvPOv7k8LIvPOv",
   "1k8LJvPOv1k8LKvPOv1k8LLvPOv1SkC08v1kC09v1TIkAMTvPOv1BGkC2BvC4Pv2kC2DvC4Pv2kC2FvC4Pv2kC2HvC4P",
   "v2kC2JvC4Pv2kC2LvC4Pv2kC2NvC4Pv2kC2PvC4Pv2kC2RvC4Pv2kC2TvC4Pv2kC2VvC4Pv2kC31vC4Pv3kC34vC4Pv2",
   "kC36vC4Pv2kC38vC4Pv7kC3FvC4Pv1kC3FvC4Qv2kC3IvC4Pv1kC3IvC4Qv2kC3LvC4Pv1kC3LvC4Qv2kC3OvC4Pv1kC",
   "3OvC4Qv2kC3RvC4Pv1kC3RvC4QvNkC26vC4PvAkC4TvC4PvEkC5BvC4Pv2kC5DvC4Pv2kC5FvC4Pv2kC5HvC4Pv2kC5J",
   "vC4Pv2kC5LvC4Pv2kC5NvC4Pv2kC5PvC4Pv2kC5RvC4Pv2kC5TvC4Pv2kC5VvC4Pv2kC61vC4Pv3kC64vC4Pv2kC66vC",
   "4Pv2kC68vC4Pv7kC6FvC4Pv1kC6FvC4Qv2kC6IvC4Pv1kC6IvC4Qv2kC6LvC4Pv1kC6LvC4Qv2kC6OvC4Pv1kC6OvC4Q",
   "v2kC6RvC4Pv1kC6RvC4QvNkC56vC4Pv3kC7FvC4Pv1kC7GvC4Pv1kC7HvC4Pv1kC7IvC4Pv4kC7TvC4Pv1I02k1328v1",
   "kPNKv1k13MAv1k1368v1kRMHv1kJHIv1kKV5v1k17SSv1k17SSv1kMAHv1k14EHv1kLC7v1kMA8v1kOFMv1kTJ9v1kVS",
   "5v1k11HVv1k11TQv1k127Ov1k144Fv1kQG2v1kR8Rv1kS6Pv1kSUUv1k111Tv1k14BAv1k16FHv1kJK2v1kKRLv1kQO4",
   "v1kSGRv1k11HDv1k17GUv1kNAGv1kRVBv1k11EDv1k12B4v1kOM9v1k10EOv1k120Vv1kNMAv1kPONv1kRBAv1kSNSv1",
   "k146Ev1kJS6v1kKDNv1kKMUv1kP64v1kQMJv1kSGGv1kTN7v1k1001v1k11G6v1k11ISv1k13FFv1k15PIv1k16RFv1k",
   "17FQv1kU4Cv1kUBVv1kVD0v1k10U9v1k14O4v1k17JVv1k12MMv1kM6Vv1kNO4v1kV30v1k103Uv1kSJ2v1kU6Av1k13",
   "62v1k15NNv1kM6Ov1kN32v1kQGJv1kREQv1kROFv1kV9Fv1kVHNv1k15IBv1kKMIv1k104Bv1kKESv1kKECv1kUGSv1k",
   "VDUv1k10VHv1k15JLv1k12S0v1kOMFv1kQG2v1k12NUv1kJHPv1kMV7v1kO0Iv1kSS7v1kTBGv1kKONv1kU7Rv1kJTVv",
   "1kNT9v1kJGDv1kR6Cv1kPBOv1kV92v1kKU3v1kM2Uv1kTO1v1k1129v1k12LAv1kQTQv1k13TGv1kR48v1kONUv1k10N",
   "5v1kOT0v1kTB5v1kJLEv1kKB9v1kKE9v1kQ41v1kV77v1k10JFv1k12MIv1k14EFv1kKNLv1kL22v1kMBJv1kNNCv1kP",
   "E5v1kRVUv1kU9Av1k15DDv1k16JAv1k17KNv1k17MEv1kKKRv1kPM6v1kQRNv1k13R2v1kNJKv1kOCGv1kOG0v1kP4Qv",
   "1kRP3v1kSA9v1kT49v1kUEAv1kVFKv1k103Fv1k13P6v1k117Ev1k1413v1k14QAv1kKGNv1kKL3v1kL5Tv1kS68v1k1",
   "262v1k12LAv1kNM9v1kNVLv1kORRv1kQTEv1kV1Uv1kSRLv1kJN4v1kLNPv1kMV7v1kNDQv1kO0Sv1kSTIv1kT39v1kV",
   "SQv1k1026v1k14HKv1k15NMv1k15Q8v1k160Ov1kJSBv1kUDEv1k14DKv1k15LOv1kO71v1kJK6v1kK6Qv1kMVEv1kN1",
   "Vv1kPCPv1kQG2v1kSEEv1kTI2v1k117Sv1k143Sv1k17SDv1kPK8v1k15HEv1kKK9v1kPRRv1kPVJv1kRA1v1kRKSv1k",
   "T09v1kTAPv1kU3Bv1kV8Gv1k162Uv1kKBDv1kOHEv1k15JOv1kK1Bv1kN8Pv1kRFAv1k13PAv1kNSBv1kOA4v1kQ0Nv1",
   "kSS7v1k15K6v1kKH9v1kL0Fv1kN35v1kPGJv1kPQEv1kQ58v1kR75v1kT06v1kTF2v1kVRPv1k126Fv1k1271v1k14EC",
   "v1k15N2v1kKPVv1kRLQv1kL0Tv1kSEGv1kT4Ov1k11FQv1k15L3v1k172Nv1k17KVv1kPSNv1kREBv1k10F8v1kUMBv1",
   "kUP0v1kV4Iv1kSM0v1kS4Pv1k12QOv1kJM0v1k10PMv1kKHQv1kKG7v1kNL6v1kOMJv1kV6Mv1kMS5v1kR8Uv1kPLKv1",
   "k13PRv1k122Cv1k15IDv1k12CBv1kNMJv1kKA0v1kLE0v3kM2Qv2kPJKv3kKEUv1kSPAv1kTMAv1kU9Sv1kUAUv1kUB5",
   "v1kUCFv1k15QMv1kV5Uv1kVTTv2k11GIv2k12NOv3k141Ov1k147Tv4k167Fv1k167Sv1k1698v1k17DKv1k146Uv1k1",
   "5LNv1kJTEv1kK77v1kKADv1kKM9v1kKN4v1kKQHv1kLCTv1kLG6v1kLJ8v1kM20v1kM58v1kN34v1kN3Ev1kO4Kv1kOB",
   "8v1kOCEv1kOFIv1kPAFv1kPF2v1kPKHv1kQ45v1kRBNv1kRGQv1kRP2v1kSBEv1kSHBv1kT12v1kU4Hv1kU9Uv1kUA9v",
   "1kUA8v1kUAGv1kUAMv1kUATv1kUCDv1kUCEv1kUI0v1kUK1v1kUU0v1kVFKv1kVG9v1kVI1v1kVRIv1k1005v1k10FDv",
   "1k10JPv1k10JPv1k112Nv1k128Gv1k12CMv1k12O1v1k12PPv1k136Jv1k1388v1k13TMv1k141Ov1k15N3v1k15VVv1",
   "k161Rv1kO3Lv1k4GNEv1k10GOv3kJH6v1kKDLv1kKB8v1kJS0v1kKA5v1kKC0v1kKM7v1kKNQv1kLCTv1kLALv1kLCPv",
   "1kLF2v1kM2Qv1kM5Jv1kMA4v1kMAKv1kMJ2v1kMP8v1kNMIv1kNMPv1kNR9v1kNTDv1kO6Ov1kOAEv1kO88v1kOCEv1k",
   "OB0v1kOFIv1kOHKv1kOU4v1kP0Sv1kP2Iv1kPAMv1kPJKv1kPONv1kPORv1kPQMv1kQRPv1kQTQv1kRA1v1kRMRv1kRM",
   "Bv1kRP2v1kS0Uv1kSBEv1kTT7v1kSHLv1kSLFv1kSPAv1kT3Hv1kT86v1kT9Rv1kTGTv1kTGVv1kTMAv1kTMRv1kTNKv",
   "1kTQAv1kTQ0v1kU6Cv1kULHv1kUU0v1kV3Rv1kVARv1kVFKv1kVPUv1k1005v1k10QIv1k10VFv1k11RPv1k12A1v1k1",
   "2C6v1k12CMv1k12LVv1k12NOv1k12MBv1k12O1v1k12NUv1k12NDv1k12PPv1k12SAv1k1388v1k13POv1k143Iv1k14",
   "CPv1k14JMv1k15JSv1k15N3v1k15QMv1k15URv1k15VVv1k160Bv1k161Rv1k16OIv1k17SSv1k4A2Av1k4A24v1k4CU",
   "Lv1kESTv1kG0Ov1kG1Pv1k4KI9v1k4N6Gv1k4VMJv1k17Q3v1k17SEv24k1EPv1DKv2k1FIv1DNvBk1F9v1E1v1k1F9v",
   "1E2v1k1UQ9v1E1v1k1UQ9v1E2v1k1EGv1DNv1k1EGv1DOv1k1EGv1DSv1k1EHv1DSv1k1EIv1DSv1k1EJv1DSv1k1EKv",
   "1DSv1k1ELv1DSv1k1EMv1DSv2k1EOv1DSv1k1EPv1DSv1k1EQv1DSv1k1ERv1DSv1k1ESv1DSv2k1EUv1DSv2k1F0v1D",
   "Sv1k1F1v1DSv2k1F3v1DSv1k1F4v1DSv2k1F6v1DSv1k1F7v1DSv1k1F8v1DSv1k1F9v1DSv1k1FAv1DSv1k1ELv1DPv",
   "1k1EHv1DVv1k1ERv1DVv1k1F4v1DVv5ACk244Pv245Qv2k244Rv245QvFk2455v245Qv43k249Hv2497v1k249Iv2497",
   "vGSk24Q7v24PUv1k24Q7v24QNvBFk255Pv255Qv1k255Pv255Gv2k255Pv255Tv7Sk25DOv25DFv1k25DPv25DFvRTk2",
   "69Lv269Gv1E16k3KANv3KB5v1k3KAOv3KB5v1k3KAVv3KBEv1k3KAVv3KBFv1k3KAVv3KBGv1k3KAVv3KBHv1k3KAVv3",
   "KBIv2Nk3KDPv3KB5v1k3KDQv3KB5v1k3KDRv3KBEv1k3KDSv3KBEv1k3KDRv3KBFv1k3KDSv3KBFv29I0kJHTv1kJHOv",
   "1kJI1v1k4092v1kJR0v1kJTEv1kJTRv1kK02v1kK3Qv1kK4Pv1kK77v1kK6Fv1kD4Uv1k41HQv1kKADv1kKAKv1kKB4v",
   "1kKBNv1k418Sv1kD5Pv1kKB7v1kKCDv1k41ABv1kKCNv1kKD4v1kJMCv1kKDCv1kKDLv1k54EVv1kKFLv1kKG3v1kD6V",
   "v1kKHRv1kKI6v1kKJIv1kKJNv1kD8Lv1kKM7v1kKM9v1kKN4v1kKNQv1kKO5v1kKO6v1kKONv1kKQ9v1kKQHv1kKQQv1",
   "kKRJv1kKRTv1kKRVv1kKRVv1kKRVv1k42HCv1kS3Gv1kKUAv1kKUVv1k42R3v1kKVBv1kKVHv1kL06v1kL4Uv1kL1Ov1",
   "kL28v1kL38v1kL52v1kL7Mv1kL8Gv1kLAJv1kLB3v1kLC4v1kLC4v1kLCPv1kLDBv1kLDJv1kLE2v1kLOMv1kLG6v1kL",
   "ONv1kLIHv1kLJKv1kKG7v1kM7Ev1kLUEv1kLVKv1kM0Dv1kLSBv1kM1Iv1kM1Hv1kM5Cv1k4574v1kM7Iv1kM7Nv1kM8",
   "6v1kM8Qv1kM92v1kMB2v1k45L8v1k45NAv1kMFCv1kMGRv1kMH7v1kMEOv1kMJ6v1kDNEv1kDNSv1kMO8v1kMPUv1kMP",
   "Uv1k46E8v1kMU3v1kMUOv1kMV7v1kMVJv1k46OOv1kMVVv1kN06v1kNQJv1kN12v1kDS1v1kN30v1kN3Ev1kN60v1kN4",
   "Dv1k47F4v1kNA3v1k47F6v1kNBEv1kNBBv1kNBSv1kNF1v1kNF2v1kE1Fv1kNFTv1kNH8v1kNHTv1kNJ9v1kE32v1k48",
   "C3v1kE3Sv1kNLGv1kNLJv1kNLMv1kNMAv1k58SIv1kNNUv1k48PHv1k48PHv1k10G1v1kNP2v1kNP2v1kE67v1k4CLOv",
   "1k4OEQv1kNR2v1kNRBv1kE73v1kNSQv1kNUDv1kNUNv1kNVPv1kO41v1kE9Qv1kE8Sv1kO4Kv1k49MKv1kO67v1kOA8v",
   "1kOACv1kOAEv1kOACv1kOBQv1kOCEv1kODIv1kOD4v1kODFv1kOEUv1kOFIv1kOFMv1kOGGv1kOGRv1kOITv1kOLHv1k",
   "OMKv1kOQGv1k4AOCv1kOPTv1kONSv1kOR8v1kOS3v1kOV4v1k4AVHv1kP12v1kOU5v1kOT9v1kEHEv1kP39v1kP3Uv1k",
   "P4Tv1kP3Nv1kEJCv1kPAFv1kPBCv1k4C0Av1kPF3v1kPNOv1kPI9v1kEOPv1kPKHv1kEO8v1kEN4v1kKCIv1kKCLv1kP",
   "O0v1kPKSv1k105Dv1kGUPv1kPONv1kPORv1kPP1v1kPQUv1kPQJv1k4CU3v1kEQ9v1kPVQv1kPS5v1kQ2Iv1kQ45v1k4",
   "D3Dv1kQ4Ev1kQ0Vv1kQ8Kv1kESTv1kQA2v1kQD3v1kQFAv1kQL8v1k4DL3v1kQMRv1kF0Ov1kQP1v1k4E57v1kQQKv1k",
   "F2Ev1kQRIv1kQSVv1kQTQv1kQTRv1k4EKDv1k478Bv1k4ENQv1kR2Ev1k4F5Sv1kR5Vv1kR6Dv1kR37v1kR8Mv1kR9Uv",
   "1kRBNv1kRA1v1kRB9v1kRBOv1kRC5v1k4F8Uv1kR9Kv1kRHFv1kRJEv1kF9Jv1kRMBv1kRM7v1k4FMHv1kRFPv1kRREv",
   "1k4FQUv1k4FSEv1kRU6v1kS1Pv1kS0Uv1kS0Rv1kFCMv1kS2Av1kS3Tv1kS3Nv1kS5Dv1k4195v1kSA5v1k4GJ3v1kSC",
   "Sv1k4GTBv1kSH8v1kSHLv1kSIGv1k4HG8v1kSK0v1kSKLv1k4HPLv1k4I0Kv1kSRQv1kSSBv1kFLCv1kST5v1kFLOv1k",
   "FLOv1kT27v1kT2Sv1kT3Hv1kT45v1kT6Av1kFORv1kT94v1k4J1Mv1kT9Uv1k4J4Iv1kTBGv1k48CVv1kTGGv1k4JT1v",
   "1k4JTOv1k4K24v1kFVSv1kG08v1kTNKv1k4K7Jv1k4K7Iv1k4K8Pv1k4K9Jv1kTOUv1kTOVv1kTOVv1kTQAv1kG1Pv1k",
   "TSBv1kG26v1kG4Mv1k4L0Tv1kU2Ev1kU4Cv1kU6Cv1kG73v1k4LH6v1kUAMv1k4LKQv1k4LM5v1kUCFv1kUFBv1kG9Fv",
   "1kUI0v1kUIAv1kUIFv1k4MBSv1k4ML7v1k4ML7v1kUNEv1kGG2v1k4MTBv1kUU6v1kUU9v1kGH7v1k4N40v1kV6Iv1kG",
   "L0v1kV78v1kV73v1kV80v1k4NS6v1kVB3v1kGO1v1kVE7v1kVG2v1kVI5v1kGPKv1k4OH8v1k4OI7v1kGQPv1k4OMPv1",
   "kVRQv1k4OPUv1kVSLv1kVVQv1k1005v1k4P6Qv1k4P93v1k1030v1k4PD8v1k103Gv1k4CQVv1kGULv1k105Iv1k1083",
   "v1kH0Bv1k109Uv1kMLLv1k4PT7v1k4PTLv1k4CSJv1k4CSSv1k10G1v1k10G4v1k13SUv1kH3Bv1k10KHv1k10KBv1k1",
   "0KTv1kKLJv1k10LHv1k10LJv1k10LTv1k10N6v1k4QPSv1k10N5v1k10OTv1k10R3v1k10TDv1k10P3v1k10TTv1k10V",
   "7v1k112Nv1k10QJv1k10UAv1k10UCv1k10USv1k4R1Mv1k4RBBv1k4R6Lv1kH9Bv1k117Hv1k117Jv1k118Mv1k4SUAv",
   "1k11B4v1k4RPCv1kHATv1kHB1v1k4RTHv1k4S6Iv1kHBBv1k11IGv1k11ISv1k11J7v1k11J9v1k11L9v1k11K8v1k11",
   "OEv1k11N2v1k11RPv1k11P8v1k11RBv1k11S6v1kHENv1k11V1v1k1201v1kHFPv1k1230v1k1233v1k4TJ7v1k126Nv",
   "1k126Uv1kHHLv1k127Qv1kD5Rv1k4U5Ev1k4UB6v1kHLUv1kHM7v1k12L0v1k12NDv1k12SAv1k132Lv1k4V58v1k135",
   "Bv1k1361v1k138Rv1k13BNv1k4VPFv1k4204v1k13EBv1k13DSv1k13FGv1k426Uv1k13MKv1k13POv1k51EIv1k51FD",
   "v1k144Kv1k147Hv1k148Hv1k51PEv1k148Rv1k14HOv1k14MNv1k14MOv1k14JSv1k14VPv1k150Lv1k52VQv1k15CBv",
   "1kICLv1k15DNv1k53BNv1kIF6v1k15M3v1kNDIv1k15P3v1k54A5v1k54GQv1kIJEv1kIJMv1k15V0v1k550Av1kILIv",
   "1k554Mv1k160Bv1k160Bv1k1619v1k55DMv1k1672v1kIPJv1k1699v1k16D7v1k16E2v1k16FUv1kIUEv1k56PGv1k1",
   "6OIv1k1720v1k177Tv1kJ6Ev1kJ7Dv1k17B7v1k586Ev1kJ7Ov1k5885v1k58GEv1k58KHv1k17LRv1kJAMv1k17NPv1",
   "k17NUv1k17O5v1k17OFv1k17OMv1k17PRv1k59G0v"]

/-- The characters made of two others that are not composed again. -/
def compositionExclusions : List Nat :=
  [0x344, 0x958, 0x959, 0x95A, 0x95B, 0x95C, 0x95D, 0x95E, 0x95F, 0x9DC,
   0x9DD, 0x9DF, 0xA33, 0xA36, 0xA59, 0xA5A, 0xA5B, 0xA5E, 0xB5C, 0xB5D,
   0xF43, 0xF4D, 0xF52, 0xF57, 0xF5C, 0xF69, 0xF73, 0xF75, 0xF76, 0xF78,
   0xF81, 0xF93, 0xF9D, 0xFA2, 0xFA7, 0xFAC, 0xFB9, 0x2ADC, 0xFB1D, 0xFB1F,
   0xFB2A, 0xFB2B, 0xFB2C, 0xFB2D, 0xFB2E, 0xFB2F, 0xFB30, 0xFB31, 0xFB32, 0xFB33,
   0xFB34, 0xFB35, 0xFB36, 0xFB38, 0xFB39, 0xFB3A, 0xFB3B, 0xFB3C, 0xFB3E, 0xFB40,
   0xFB41, 0xFB43, 0xFB44, 0xFB46, 0xFB47, 0xFB48, 0xFB49, 0xFB4A, 0xFB4B, 0xFB4C,
   0xFB4D, 0xFB4E, 0x1D15E, 0x1D15F, 0x1D160, 0x1D161, 0x1D162, 0x1D163, 0x1D164, 0x1D1BB,
   0x1D1BC, 0x1D1BD, 0x1D1BE, 0x1D1BF, 0x1D1C0]

end Accounts.Unicode
