/-
  Stdiolink.Modbus.CrcCopies — the copies of the Modbus CRC, `calculateCRC16` of both RTU clients
  and of the serial server and `calculateModbusCrc16` of the temperature scanner, next to the one
  of the RTU server.

  Each copy has a table of its own.  A frame passes if the remainder of all its bits is 0, and a
  remainder is linear: so what was flipped in a frame decides whether it still passes.

  Main results:
    * `crcLoop_eq`          — a loop over the right table is the bitwise CRC;
    * `verifyCRC_eq_passes` — a frame passes if its remainder is 0;
    * `crc_copies`          — every copy is the CRC, and no burst of 16 bits passes.
-/
import Stdiolink.Lib.Crc
import Stdiolink.Modbus.RtuClient
import Stdiolink.TempScanner.ProtocolCodec

namespace Stdiolink.Modbus.CrcCopies

open Stdiolink.Lib

/-! ## §1. The copies -/

/-- The loop of `calculateCRC16`, for a table. -/
def crcLoop (table : List UInt16) (data : List UInt8) : UInt16 :=
  data.foldl (fun crc byte =>
    (crc >>> 8) ^^^ table.getD ((crc ^^^ byte.toUInt16) &&& 0xFF).toNat 0) 0xFFFF

/-- `crc16Table`. -/
def ModbusRtuClient.crc16Table : List UInt16 :=
  [0x0000, 0xC0C1, 0xC181, 0x0140, 0xC301, 0x03C0, 0x0280, 0xC241,
    0xC601, 0x06C0, 0x0780, 0xC741, 0x0500, 0xC5C1, 0xC481, 0x0440,
    0xCC01, 0x0CC0, 0x0D80, 0xCD41, 0x0F00, 0xCFC1, 0xCE81, 0x0E40,
    0x0A00, 0xCAC1, 0xCB81, 0x0B40, 0xC901, 0x09C0, 0x0880, 0xC841,
    0xD801, 0x18C0, 0x1980, 0xD941, 0x1B00, 0xDBC1, 0xDA81, 0x1A40,
    0x1E00, 0xDEC1, 0xDF81, 0x1F40, 0xDD01, 0x1DC0, 0x1C80, 0xDC41,
    0x1400, 0xD4C1, 0xD581, 0x1540, 0xD701, 0x17C0, 0x1680, 0xD641,
    0xD201, 0x12C0, 0x1380, 0xD341, 0x1100, 0xD1C1, 0xD081, 0x1040,
    0xF001, 0x30C0, 0x3180, 0xF141, 0x3300, 0xF3C1, 0xF281, 0x3240,
    0x3600, 0xF6C1, 0xF781, 0x3740, 0xF501, 0x35C0, 0x3480, 0xF441,
    0x3C00, 0xFCC1, 0xFD81, 0x3D40, 0xFF01, 0x3FC0, 0x3E80, 0xFE41,
    0xFA01, 0x3AC0, 0x3B80, 0xFB41, 0x3900, 0xF9C1, 0xF881, 0x3840,
    0x2800, 0xE8C1, 0xE981, 0x2940, 0xEB01, 0x2BC0, 0x2A80, 0xEA41,
    0xEE01, 0x2EC0, 0x2F80, 0xEF41, 0x2D00, 0xEDC1, 0xEC81, 0x2C40,
    0xE401, 0x24C0, 0x2580, 0xE541, 0x2700, 0xE7C1, 0xE681, 0x2640,
    0x2200, 0xE2C1, 0xE381, 0x2340, 0xE101, 0x21C0, 0x2080, 0xE041,
    0xA001, 0x60C0, 0x6180, 0xA141, 0x6300, 0xA3C1, 0xA281, 0x6240,
    0x6600, 0xA6C1, 0xA781, 0x6740, 0xA501, 0x65C0, 0x6480, 0xA441,
    0x6C00, 0xACC1, 0xAD81, 0x6D40, 0xAF01, 0x6FC0, 0x6E80, 0xAE41,
    0xAA01, 0x6AC0, 0x6B80, 0xAB41, 0x6900, 0xA9C1, 0xA881, 0x6840,
    0x7800, 0xB8C1, 0xB981, 0x7940, 0xBB01, 0x7BC0, 0x7A80, 0xBA41,
    0xBE01, 0x7EC0, 0x7F80, 0xBF41, 0x7D00, 0xBDC1, 0xBC81, 0x7C40,
    0xB401, 0x74C0, 0x7580, 0xB541, 0x7700, 0xB7C1, 0xB681, 0x7640,
    0x7200, 0xB2C1, 0xB381, 0x7340, 0xB101, 0x71C0, 0x7080, 0xB041,
    0x5000, 0x90C1, 0x9181, 0x5140, 0x9301, 0x53C0, 0x5280, 0x9241,
    0x9601, 0x56C0, 0x5780, 0x9741, 0x5500, 0x95C1, 0x9481, 0x5440,
    0x9C01, 0x5CC0, 0x5D80, 0x9D41, 0x5F00, 0x9FC1, 0x9E81, 0x5E40,
    0x5A00, 0x9AC1, 0x9B81, 0x5B40, 0x9901, 0x59C0, 0x5880, 0x9841,
    0x8801, 0x48C0, 0x4980, 0x8941, 0x4B00, 0x8BC1, 0x8A81, 0x4A40,
    0x4E00, 0x8EC1, 0x8F81, 0x4F40, 0x8D01, 0x4DC0, 0x4C80, 0x8C41,
    0x4400, 0x84C1, 0x8581, 0x4540, 0x8701, 0x47C0, 0x4680, 0x8641,
    0x8201, 0x42C0, 0x4380, 0x8341, 0x4100, 0x81C1, 0x8081, 0x4040]

/-- `calculateCRC16`. -/
def ModbusRtuClient.calculateCRC16 : List UInt8 → UInt16 := crcLoop ModbusRtuClient.crc16Table

/-- `crc16Table`. -/
def ModbusRtuSerialServer.crc16Table : List UInt16 :=
  [0x0000, 0xC0C1, 0xC181, 0x0140, 0xC301, 0x03C0, 0x0280, 0xC241,
    0xC601, 0x06C0, 0x0780, 0xC741, 0x0500, 0xC5C1, 0xC481, 0x0440,
    0xCC01, 0x0CC0, 0x0D80, 0xCD41, 0x0F00, 0xCFC1, 0xCE81, 0x0E40,
    0x0A00, 0xCAC1, 0xCB81, 0x0B40, 0xC901, 0x09C0, 0x0880, 0xC841,
    0xD801, 0x18C0, 0x1980, 0xD941, 0x1B00, 0xDBC1, 0xDA81, 0x1A40,
    0x1E00, 0xDEC1, 0xDF81, 0x1F40, 0xDD01, 0x1DC0, 0x1C80, 0xDC41,
    0x1400, 0xD4C1, 0xD581, 0x1540, 0xD701, 0x17C0, 0x1680, 0xD641,
    0xD201, 0x12C0, 0x1380, 0xD341, 0x1100, 0xD1C1, 0xD081, 0x1040,
    0xF001, 0x30C0, 0x3180, 0xF141, 0x3300, 0xF3C1, 0xF281, 0x3240,
    0x3600, 0xF6C1, 0xF781, 0x3740, 0xF501, 0x35C0, 0x3480, 0xF441,
    0x3C00, 0xFCC1, 0xFD81, 0x3D40, 0xFF01, 0x3FC0, 0x3E80, 0xFE41,
    0xFA01, 0x3AC0, 0x3B80, 0xFB41, 0x3900, 0xF9C1, 0xF881, 0x3840,
    0x2800, 0xE8C1, 0xE981, 0x2940, 0xEB01, 0x2BC0, 0x2A80, 0xEA41,
    0xEE01, 0x2EC0, 0x2F80, 0xEF41, 0x2D00, 0xEDC1, 0xEC81, 0x2C40,
    0xE401, 0x24C0, 0x2580, 0xE541, 0x2700, 0xE7C1, 0xE681, 0x2640,
    0x2200, 0xE2C1, 0xE381, 0x2340, 0xE101, 0x21C0, 0x2080, 0xE041,
    0xA001, 0x60C0, 0x6180, 0xA141, 0x6300, 0xA3C1, 0xA281, 0x6240,
    0x6600, 0xA6C1, 0xA781, 0x6740, 0xA501, 0x65C0, 0x6480, 0xA441,
    0x6C00, 0xACC1, 0xAD81, 0x6D40, 0xAF01, 0x6FC0, 0x6E80, 0xAE41,
    0xAA01, 0x6AC0, 0x6B80, 0xAB41, 0x6900, 0xA9C1, 0xA881, 0x6840,
    0x7800, 0xB8C1, 0xB981, 0x7940, 0xBB01, 0x7BC0, 0x7A80, 0xBA41,
    0xBE01, 0x7EC0, 0x7F80, 0xBF41, 0x7D00, 0xBDC1, 0xBC81, 0x7C40,
    0xB401, 0x74C0, 0x7580, 0xB541, 0x7700, 0xB7C1, 0xB681, 0x7640,
    0x7200, 0xB2C1, 0xB381, 0x7340, 0xB101, 0x71C0, 0x7080, 0xB041,
    0x5000, 0x90C1, 0x9181, 0x5140, 0x9301, 0x53C0, 0x5280, 0x9241,
    0x9601, 0x56C0, 0x5780, 0x9741, 0x5500, 0x95C1, 0x9481, 0x5440,
    0x9C01, 0x5CC0, 0x5D80, 0x9D41, 0x5F00, 0x9FC1, 0x9E81, 0x5E40,
    0x5A00, 0x9AC1, 0x9B81, 0x5B40, 0x9901, 0x59C0, 0x5880, 0x9841,
    0x8801, 0x48C0, 0x4980, 0x8941, 0x4B00, 0x8BC1, 0x8A81, 0x4A40,
    0x4E00, 0x8EC1, 0x8F81, 0x4F40, 0x8D01, 0x4DC0, 0x4C80, 0x8C41,
    0x4400, 0x84C1, 0x8581, 0x4540, 0x8701, 0x47C0, 0x4680, 0x8641,
    0x8201, 0x42C0, 0x4380, 0x8341, 0x4100, 0x81C1, 0x8081, 0x4040]

/-- `calculateCRC16`. -/
def ModbusRtuSerialServer.calculateCRC16 : List UInt8 → UInt16 := crcLoop ModbusRtuSerialServer.crc16Table

/-- `crc16Table`. -/
def ModbusRtuSerialClient.crc16Table : List UInt16 :=
  [0x0000, 0xC0C1, 0xC181, 0x0140, 0xC301, 0x03C0, 0x0280, 0xC241,
    0xC601, 0x06C0, 0x0780, 0xC741, 0x0500, 0xC5C1, 0xC481, 0x0440,
    0xCC01, 0x0CC0, 0x0D80, 0xCD41, 0x0F00, 0xCFC1, 0xCE81, 0x0E40,
    0x0A00, 0xCAC1, 0xCB81, 0x0B40, 0xC901, 0x09C0, 0x0880, 0xC841,
    0xD801, 0x18C0, 0x1980, 0xD941, 0x1B00, 0xDBC1, 0xDA81, 0x1A40,
    0x1E00, 0xDEC1, 0xDF81, 0x1F40, 0xDD01, 0x1DC0, 0x1C80, 0xDC41,
    0x1400, 0xD4C1, 0xD581, 0x1540, 0xD701, 0x17C0, 0x1680, 0xD641,
    0xD201, 0x12C0, 0x1380, 0xD341, 0x1100, 0xD1C1, 0xD081, 0x1040,
    0xF001, 0x30C0, 0x3180, 0xF141, 0x3300, 0xF3C1, 0xF281, 0x3240,
    0x3600, 0xF6C1, 0xF781, 0x3740, 0xF501, 0x35C0, 0x3480, 0xF441,
    0x3C00, 0xFCC1, 0xFD81, 0x3D40, 0xFF01, 0x3FC0, 0x3E80, 0xFE41,
    0xFA01, 0x3AC0, 0x3B80, 0xFB41, 0x3900, 0xF9C1, 0xF881, 0x3840,
    0x2800, 0xE8C1, 0xE981, 0x2940, 0xEB01, 0x2BC0, 0x2A80, 0xEA41,
    0xEE01, 0x2EC0, 0x2F80, 0xEF41, 0x2D00, 0xEDC1, 0xEC81, 0x2C40,
    0xE401, 0x24C0, 0x2580, 0xE541, 0x2700, 0xE7C1, 0xE681, 0x2640,
    0x2200, 0xE2C1, 0xE381, 0x2340, 0xE101, 0x21C0, 0x2080, 0xE041,
    0xA001, 0x60C0, 0x6180, 0xA141, 0x6300, 0xA3C1, 0xA281, 0x6240,
    0x6600, 0xA6C1, 0xA781, 0x6740, 0xA501, 0x65C0, 0x6480, 0xA441,
    0x6C00, 0xACC1, 0xAD81, 0x6D40, 0xAF01, 0x6FC0, 0x6E80, 0xAE41,
    0xAA01, 0x6AC0, 0x6B80, 0xAB41, 0x6900, 0xA9C1, 0xA881, 0x6840,
    0x7800, 0xB8C1, 0xB981, 0x7940, 0xBB01, 0x7BC0, 0x7A80, 0xBA41,
    0xBE01, 0x7EC0, 0x7F80, 0xBF41, 0x7D00, 0xBDC1, 0xBC81, 0x7C40,
    0xB401, 0x74C0, 0x7580, 0xB541, 0x7700, 0xB7C1, 0xB681, 0x7640,
    0x7200, 0xB2C1, 0xB381, 0x7340, 0xB101, 0x71C0, 0x7080, 0xB041,
    0x5000, 0x90C1, 0x9181, 0x5140, 0x9301, 0x53C0, 0x5280, 0x9241,
    0x9601, 0x56C0, 0x5780, 0x9741, 0x5500, 0x95C1, 0x9481, 0x5440,
    0x9C01, 0x5CC0, 0x5D80, 0x9D41, 0x5F00, 0x9FC1, 0x9E81, 0x5E40,
    0x5A00, 0x9AC1, 0x9B81, 0x5B40, 0x9901, 0x59C0, 0x5880, 0x9841,
    0x8801, 0x48C0, 0x4980, 0x8941, 0x4B00, 0x8BC1, 0x8A81, 0x4A40,
    0x4E00, 0x8EC1, 0x8F81, 0x4F40, 0x8D01, 0x4DC0, 0x4C80, 0x8C41,
    0x4400, 0x84C1, 0x8581, 0x4540, 0x8701, 0x47C0, 0x4680, 0x8641,
    0x8201, 0x42C0, 0x4380, 0x8341, 0x4100, 0x81C1, 0x8081, 0x4040]

/-- `calculateCRC16`. -/
def ModbusRtuSerialClient.calculateCRC16 : List UInt8 → UInt16 := crcLoop ModbusRtuSerialClient.crc16Table

/-- `kCrc16Table`. -/
def TempScanner.kCrc16Table : List UInt16 :=
  [0x0000, 0xC0C1, 0xC181, 0x0140, 0xC301, 0x03C0, 0x0280, 0xC241,
    0xC601, 0x06C0, 0x0780, 0xC741, 0x0500, 0xC5C1, 0xC481, 0x0440,
    0xCC01, 0x0CC0, 0x0D80, 0xCD41, 0x0F00, 0xCFC1, 0xCE81, 0x0E40,
    0x0A00, 0xCAC1, 0xCB81, 0x0B40, 0xC901, 0x09C0, 0x0880, 0xC841,
    0xD801, 0x18C0, 0x1980, 0xD941, 0x1B00, 0xDBC1, 0xDA81, 0x1A40,
    0x1E00, 0xDEC1, 0xDF81, 0x1F40, 0xDD01, 0x1DC0, 0x1C80, 0xDC41,
    0x1400, 0xD4C1, 0xD581, 0x1540, 0xD701, 0x17C0, 0x1680, 0xD641,
    0xD201, 0x12C0, 0x1380, 0xD341, 0x1100, 0xD1C1, 0xD081, 0x1040,
    0xF001, 0x30C0, 0x3180, 0xF141, 0x3300, 0xF3C1, 0xF281, 0x3240,
    0x3600, 0xF6C1, 0xF781, 0x3740, 0xF501, 0x35C0, 0x3480, 0xF441,
    0x3C00, 0xFCC1, 0xFD81, 0x3D40, 0xFF01, 0x3FC0, 0x3E80, 0xFE41,
    0xFA01, 0x3AC0, 0x3B80, 0xFB41, 0x3900, 0xF9C1, 0xF881, 0x3840,
    0x2800, 0xE8C1, 0xE981, 0x2940, 0xEB01, 0x2BC0, 0x2A80, 0xEA41,
    0xEE01, 0x2EC0, 0x2F80, 0xEF41, 0x2D00, 0xEDC1, 0xEC81, 0x2C40,
    0xE401, 0x24C0, 0x2580, 0xE541, 0x2700, 0xE7C1, 0xE681, 0x2640,
    0x2200, 0xE2C1, 0xE381, 0x2340, 0xE101, 0x21C0, 0x2080, 0xE041,
    0xA001, 0x60C0, 0x6180, 0xA141, 0x6300, 0xA3C1, 0xA281, 0x6240,
    0x6600, 0xA6C1, 0xA781, 0x6740, 0xA501, 0x65C0, 0x6480, 0xA441,
    0x6C00, 0xACC1, 0xAD81, 0x6D40, 0xAF01, 0x6FC0, 0x6E80, 0xAE41,
    0xAA01, 0x6AC0, 0x6B80, 0xAB41, 0x6900, 0xA9C1, 0xA881, 0x6840,
    0x7800, 0xB8C1, 0xB981, 0x7940, 0xBB01, 0x7BC0, 0x7A80, 0xBA41,
    0xBE01, 0x7EC0, 0x7F80, 0xBF41, 0x7D00, 0xBDC1, 0xBC81, 0x7C40,
    0xB401, 0x74C0, 0x7580, 0xB541, 0x7700, 0xB7C1, 0xB681, 0x7640,
    0x7200, 0xB2C1, 0xB381, 0x7340, 0xB101, 0x71C0, 0x7080, 0xB041,
    0x5000, 0x90C1, 0x9181, 0x5140, 0x9301, 0x53C0, 0x5280, 0x9241,
    0x9601, 0x56C0, 0x5780, 0x9741, 0x5500, 0x95C1, 0x9481, 0x5440,
    0x9C01, 0x5CC0, 0x5D80, 0x9D41, 0x5F00, 0x9FC1, 0x9E81, 0x5E40,
    0x5A00, 0x9AC1, 0x9B81, 0x5B40, 0x9901, 0x59C0, 0x5880, 0x9841,
    0x8801, 0x48C0, 0x4980, 0x8941, 0x4B00, 0x8BC1, 0x8A81, 0x4A40,
    0x4E00, 0x8EC1, 0x8F81, 0x4F40, 0x8D01, 0x4DC0, 0x4C80, 0x8C41,
    0x4400, 0x84C1, 0x8581, 0x4540, 0x8701, 0x47C0, 0x4680, 0x8641,
    0x8201, 0x42C0, 0x4380, 0x8341, 0x4100, 0x81C1, 0x8081, 0x4040]

/-- `calculateModbusCrc16`. -/
def TempScanner.calculateModbusCrc16 : List UInt8 → UInt16 := crcLoop TempScanner.kCrc16Table

/-- The copies, with the one of the RTU server. -/
def copies : List (List UInt8 → UInt16) :=
  [ModbusRtuClient.calculateCRC16, Modbus.calculateCRC16, ModbusRtuSerialServer.calculateCRC16,
    ModbusRtuSerialClient.calculateCRC16, TempScanner.calculateModbusCrc16]

/-- Bytes with their CRC, as `buildRequest`, `buildRtuResponse` and `finalizeRequest` append it. -/
def withCrc (calculateCRC16 : List UInt8 → UInt16) (data : List UInt8) : List UInt8 :=
  data ++ [(calculateCRC16 data).toUInt8, (calculateCRC16 data >>> 8).toUInt8]

/-- The checks of a whole frame, of the client and of the temperature scanner. -/
def checks : List (List UInt8 → Option Bool) :=
  [Modbus.ModbusRtuClient.verifyCRC,
    fun frame => some (Stdiolink.TempScanner.verifyModbusCrc16 frame)]

/-! ## §2. The CRC, bit by bit -/

/-- **CRC-16/MODBUS**: each byte is added to the low bits, which are shifted out one by one. -/
def bitwiseCrc (data : List UInt8) : UInt16 :=
  data.foldl (fun crc byte => crcShift^[8] (crc ^^^ byte.toUInt16)) 0xFFFF

/-- The frame with some of its bits flipped; the bits are counted as they travel on a serial line,
the low bit of each byte first. -/
def flipBits (frame : List UInt8) (flipped : Finset Nat) : List UInt8 :=
  frame.mapIdx fun i byte =>
    byte ^^^ UInt8.ofNat (packBits (fun j => decide (8 * i + j ∈ flipped)) 8)

/-- One shift, on the bits of the word. -/
theorem toBitVec_crcShift (c : UInt16) : (crcShift c).toBitVec = Crc.shift 0xA001#16 c.toBitVec := by
  have hlow : c &&& 1 = 1 ↔ c.toBitVec.getLsbD 0 = true := by
    rw [← UInt16.toBitVec_inj, UInt16.toBitVec_and]
    show c.toBitVec &&& 1#16 = 1#16 ↔ _
    rw [BitVec.and_one_eq_setWidth_ofBool_getLsbD]
    cases c.toBitVec.getLsbD 0 <;> decide
  unfold crcShift Crc.shift
  by_cases h : c &&& 1 = 1
  · rw [if_pos h, if_pos (hlow.mp h)]
    rfl
  · rw [if_neg h, if_neg fun h' => h (hlow.mpr h')]
    rfl

theorem toBitVec_iterate (n : Nat) (c : UInt16) :
    (crcShift^[n] c).toBitVec = (Crc.shift 0xA001#16)^[n] c.toBitVec :=
  Function.Semiconj.iterate_right toBitVec_crcShift n c

/-- A byte from the table: the low eight bits choose the entry, the others move down. -/
theorem crcStep_eq {table : List UInt16}
    (htable : table = (List.range 256).map fun i => crcShift^[8] (UInt16.ofNat i)) (crc : UInt16)
    (byte : UInt8) :
    (crc >>> 8) ^^^ table.getD ((crc ^^^ byte.toUInt16) &&& 0xFF).toNat 0 =
      crcShift^[8] (crc ^^^ byte.toUInt16) := by
  have hindex : ((crc ^^^ byte.toUInt16) &&& 0xFF).toNat < 256 := by
    rw [UInt16.toNat_and]
    exact Nat.lt_succ_of_le Nat.and_le_right
  have hentry : table.getD ((crc ^^^ byte.toUInt16) &&& 0xFF).toNat 0 =
      crcShift^[8] ((crc ^^^ byte.toUInt16) &&& 0xFF) := by
    rw [htable, List.getD_eq_getElem _ _ (by simpa using hindex)]
    simp
  have hmoved : (crc ^^^ byte.toUInt16) >>> 8 = crc >>> 8 := by
    apply UInt16.toBitVec_inj.mp
    apply BitVec.eq_of_getLsbD_eq
    intro i _
    show ((crc.toBitVec ^^^ byte.toBitVec.setWidth 16) >>> 8).getLsbD i =
      (crc.toBitVec >>> 8).getLsbD i
    rw [BitVec.getLsbD_ushiftRight, BitVec.getLsbD_ushiftRight, BitVec.getLsbD_xor,
      BitVec.getLsbD_setWidth, BitVec.getLsbD_of_ge byte.toBitVec (8 + i) (by omega)]
    simp
  rw [hentry, ← hmoved, ← UInt16.toBitVec_inj, toBitVec_iterate,
    Crc.shift_iterate_split (m := 0xFF#16) (by decide), UInt16.toBitVec_xor, toBitVec_iterate,
    BitVec.xor_comm]
  rfl

/-- **A loop over the right table** is the bitwise CRC. -/
theorem crcLoop_eq {table : List UInt16}
    (htable : table = (List.range 256).map fun i => crcShift^[8] (UInt16.ofNat i)) :
    crcLoop table = bitwiseCrc := by
  funext data
  unfold crcLoop bitwiseCrc
  simp only [crcStep_eq htable]

theorem copies_eq {calculateCRC16 : List UInt8 → UInt16} (h : calculateCRC16 ∈ copies) :
    calculateCRC16 = bitwiseCrc := by
  have hserver : Modbus.calculateCRC16 = bitwiseCrc := crcLoop_eq crc16Table_eq
  rw [← hserver]
  simp only [copies, List.mem_cons, List.not_mem_nil, or_false] at h
  rcases h with rfl | rfl | rfl | rfl | rfl
  · exact congrArg crcLoop (by decide +kernel)
  · rfl
  · exact congrArg crcLoop (by decide +kernel)
  · exact congrArg crcLoop (by decide +kernel)
  · exact congrArg crcLoop (by decide +kernel)

/-! ## §3. Frames as messages -/

theorem bitAt_byte {data : List UInt8} {byte : UInt8} {j : Nat} (more : List UInt8) (hj : j < 8) :
    bitAt (data ++ byte :: more) (8 * data.length + j) = byte.toBitVec.getLsbD j := by
  have hdiv : (8 * data.length + j) / 8 = data.length := by omega
  have hmod : (8 * data.length + j) % 8 = j := by omega
  rw [bitAt, hdiv, hmod, List.getD_append_right _ _ _ _ (Nat.le_refl _), Nat.sub_self]
  rfl

/-- The bits of the bytes have the remainder of the bytes. -/
theorem run_bytes (data : List UInt8) :
    Crc.run 0xA001#16 0xFFFF#16 (bitAt data) (8 * data.length) = (bitwiseCrc data).toBitVec := by
  induction data using List.reverseRecOn with
  | nil => rfl
  | append_singleton data byte ih =>
    have hfront : Crc.run 0xA001#16 0xFFFF#16 (bitAt (data ++ [byte])) (8 * data.length) =
        (bitwiseCrc data).toBitVec := by
      rw [← ih]
      exact Crc.run_congr fun i hi => bitAt_append [byte] (by omega)
    have hword : Crc.word 16 (fun i => bitAt (data ++ [byte]) (8 * data.length + i)) 8 =
        byte.toBitVec.setWidth 16 := by
      apply BitVec.eq_of_getLsbD_eq
      intro i hi
      rw [Crc.getLsbD_word _ (by omega), BitVec.getLsbD_setWidth]
      by_cases h : i < 8
      · simp [h, hi, bitAt_byte [] h]
      · simp [h, BitVec.getLsbD_of_ge byte.toBitVec i (by omega)]
    rw [List.length_append, List.length_singleton, Nat.mul_add, Crc.run_append, hfront,
      Crc.run_eq_shift _ _ (by omega), hword]
    unfold bitwiseCrc
    rw [List.foldl_append, List.foldl_cons, List.foldl_nil, toBitVec_iterate]
    rfl

/-- The CRC after bytes takes their remainder to 0, and nothing else does. -/
theorem run_withCrc (data : List UInt8) (low high : UInt8) :
    Crc.run 0xA001#16 0xFFFF#16 (bitAt (data ++ [low, high])) (8 * (data.length + 2)) = 0#16 ↔
      bitwiseCrc data = joinBytes high low := by
  have hfront : Crc.run 0xA001#16 0xFFFF#16 (bitAt (data ++ [low, high])) (8 * data.length) =
      (bitwiseCrc data).toBitVec := by
    rw [← run_bytes]
    exact Crc.run_congr fun i hi => bitAt_append [low, high] (by omega)
  have hword : Crc.word 16 (fun i => bitAt (data ++ [low, high]) (8 * data.length + i)) 16 =
      (joinBytes high low).toBitVec := by
    apply BitVec.eq_of_getLsbD_eq
    intro i hi
    have hjoin : (joinBytes high low).toBitVec =
        high.toBitVec.setWidth 16 <<< 8 ||| low.toBitVec.setWidth 16 := rfl
    rw [Crc.getLsbD_word _ (by omega), hjoin, BitVec.getLsbD_or, BitVec.getLsbD_shiftLeft,
      BitVec.getLsbD_setWidth, BitVec.getLsbD_setWidth]
    by_cases h : i < 8
    · simp [h, hi, bitAt_byte [high] h]
    · have hsplit : 8 * data.length + i = 8 * (data ++ [low]).length + (i - 8) := by
        rw [List.length_append, List.length_singleton]
        omega
      have hframe : data ++ [low, high] = (data ++ [low]) ++ [high] := by simp
      rw [hframe, hsplit, bitAt_byte [] (by omega),
        BitVec.getLsbD_of_ge low.toBitVec i (by omega)]
      simp [h, hi]
      omega
  rw [Nat.mul_add, Crc.run_append, hfront, Crc.run_eq_shift _ _ (by omega), hword]
  constructor
  · intro h
    have hsame := Crc.shift_iterate_eq_zero (by decide) h
    exact UInt16.toBitVec_inj.mp (BitVec.xor_eq_zero_iff.mp hsame)
  · intro h
    rw [h, BitVec.xor_self, Crc.shift_iterate_zero]

/-- All bits of the frame leave no remainder, and there are four bytes. -/
def Passes (frame : List UInt8) : Prop :=
  4 ≤ frame.length ∧ Crc.run 0xA001#16 0xFFFF#16 (bitAt frame) (8 * frame.length) = 0#16

instance (frame : List UInt8) : Decidable (Passes frame) := by
  unfold Passes
  infer_instance

variable (frame : List UInt8)

/-- **A frame passes the check** of the client if its remainder is 0. -/
theorem verifyCRC_eq_passes :
    Modbus.ModbusRtuClient.verifyCRC frame = some (decide (Passes frame)) := by
  rw [ModbusRtuClient.verifyCRC_eq, Option.some.injEq, Bool.eq_iff_iff, Bool.and_eq_true,
    decide_eq_true_iff, decide_eq_true_iff, Passes]
  refine and_congr_right fun hfour => ?_
  have hserver : Modbus.calculateCRC16 = bitwiseCrc := crcLoop_eq crc16Table_eq
  -- the frame is what the CRC is computed from, and the two bytes of the CRC
  have hlast := @drop_two frame (frame.length - 2) (by omega)
  have hsplit := List.take_append_drop (frame.length - 2) frame
  rw [hlast] at hsplit
  have hlen : (frame.take (frame.length - 2)).length + 2 = frame.length := by
    rw [List.length_take]
    omega
  have hrun := run_withCrc (frame.take (frame.length - 2)) (frame.getD (frame.length - 2) 0)
    (frame.getD (frame.length - 2 + 1) 0)
  rw [hsplit, hlen] at hrun
  have hsucc : frame.length - 2 + 1 = frame.length - 1 := by omega
  rw [hrun, hsucc, ModbusRtuServer.crcMatches, hserver, decide_eq_true_iff]
  exact eq_comm

/-- The check of the temperature scanner is the one of the client. -/
theorem verifyModbusCrc16_eq :
    some (TempScanner.verifyModbusCrc16 frame) = Modbus.ModbusRtuClient.verifyCRC frame := by
  rw [ModbusRtuClient.verifyCRC_eq, TempScanner.verifyModbusCrc16]
  by_cases hfour : frame.length < 4
  · have hnot : ¬ 4 ≤ frame.length := by omega
    rw [if_pos hfour, decide_eq_false hnot, Bool.false_and]
  · have hle : 4 ≤ frame.length := by omega
    rw [if_neg hfour, decide_eq_true hle, Bool.true_and]
    exact congrArg some (decide_eq_decide.mpr eq_comm)

/-! ## §4. Flipped bits -/

theorem length_flipBits (flipped : Finset Nat) :
    (flipBits frame flipped).length = frame.length := List.length_mapIdx

/-- Flipping adds 1 to the bits. -/
theorem bitAt_flipBits (flipped : Finset Nat) {i : Nat} (hi : i < 8 * frame.length) :
    bitAt (flipBits frame flipped) i = (bitAt frame i ^^ decide (i ∈ flipped)) := by
  have hdiv : i / 8 < frame.length := by omega
  have hmod : i % 8 < 8 := by omega
  have hplace : 8 * (i / 8) + i % 8 = i := Nat.div_add_mod i 8
  have hbyte := packBits_lt (fun j => decide (8 * (i / 8) + j ∈ flipped)) 8
  unfold bitAt flipBits
  rw [List.getD_eq_getElem _ _ (by rwa [List.length_mapIdx]), List.getElem_mapIdx,
    List.getD_eq_getElem _ _ hdiv, UInt8.toNat_xor, Nat.testBit_xor, UInt8.toNat_ofNat',
    Nat.mod_eq_of_lt hbyte, testBit_packBits, hplace]
  simp [hmod]

/-- **No burst passes**: what was flipped leaves a remainder of its own. -/
theorem not_passes_flipBits {frame : List UInt8} (h : Passes frame) {flipped : Finset Nat}
    (hsome : flipped.Nonempty) (hin : ∀ i ∈ flipped, i < 8 * frame.length) {start : Nat}
    (hwindow : ∀ i ∈ flipped, start ≤ i ∧ i < start + 16) :
    ¬ Passes (flipBits frame flipped) := by
  rintro ⟨-, hrun⟩
  have hsum := @Crc.run_xor 16 0xA001#16 0xFFFF#16 0#16 (bitAt frame)
    (fun i => decide (i ∈ flipped)) (8 * frame.length)
  rw [h.2, BitVec.zero_xor, BitVec.xor_zero, ← Crc.run_congr fun i => bitAt_flipBits frame flipped,
    ← length_flipBits frame flipped, hrun] at hsum
  obtain ⟨i, hi⟩ := hsome
  have hburst : ∃ i < 8 * (flipBits frame flipped).length, decide (i ∈ flipped) = true := by
    rw [length_flipBits]
    exact ⟨i, hin i hi, decide_eq_true hi⟩
  exact Crc.run_burst_ne_zero (by decide)
    (fun i _ hset => hwindow i (of_decide_eq_true hset)) hburst hsum.symm

/-- **The copies of the CRC**: each one is CRC-16/MODBUS, what it is appended to passes both checks,
and after any flip of bits within a window of 16 neither check passes. -/
theorem crc_copies :
    (∀ calculateCRC16 ∈ copies, calculateCRC16 = bitwiseCrc ∧
      ∀ check ∈ checks, ∀ data : List UInt8, 2 ≤ data.length →
        check (withCrc calculateCRC16 data) = some true) ∧
    ∀ check ∈ checks, ∀ frame : List UInt8, 4 ≤ frame.length → check frame = some true →
      ∀ (flipped : Finset Nat) (start : Nat), flipped.Nonempty →
        (∀ i ∈ flipped, i < 8 * frame.length ∧ start ≤ i ∧ i < start + 16) →
          check (flipBits frame flipped) = some false := by
  have hcheck : ∀ check ∈ checks, ∀ frame, check frame = some (decide (Passes frame)) := by
    intro check hmem frame
    simp only [checks, List.mem_cons, List.not_mem_nil, or_false] at hmem
    rcases hmem with rfl | rfl
    · exact verifyCRC_eq_passes frame
    · exact (verifyModbusCrc16_eq frame).trans (verifyCRC_eq_passes frame)
  refine ⟨?_, ?_⟩
  · intro calculateCRC16 hcopy
    refine ⟨copies_eq hcopy, fun check hmem data hdata => ?_⟩
    rw [hcheck check hmem, copies_eq hcopy, decide_eq_true]
    refine ⟨?_, ?_⟩
    · rw [withCrc, List.length_append]
      exact Nat.add_le_add_right hdata 2
    · rw [withCrc, List.length_append]
      exact (run_withCrc data _ _).mpr (join_bytes _).symm
  · intro check hmem frame _ hpasses flipped start hsome hwindow
    rw [hcheck check hmem, Option.some.injEq, decide_eq_true_iff] at hpasses
    rw [hcheck check hmem, decide_eq_false]
    exact not_passes_flipBits hpasses hsome (fun i hi => (hwindow i hi).1)
      fun i hi => (hwindow i hi).2

/-- Two bits of a request, in its second and in its third byte. -/
theorem crc_copies_two_bits :
    let frame := withCrc ModbusRtuClient.calculateCRC16 [1, 6, 0, 16, 2, 88]
    Modbus.ModbusRtuClient.verifyCRC (flipBits frame {11, 20}) = some false := by
  intro frame
  exact crc_copies.2 _ (by simp [checks]) frame (by decide) (by decide +kernel) {11, 20} 9
    (by decide) (by decide)

end Stdiolink.Modbus.CrcCopies
