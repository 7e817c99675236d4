import PathQuery.Unicode.Property

/-!
# Ages of characters

Every version of Unicode adds characters. The age of a character is the version that it came with; for
private use, for surrogates and for the code points that never become characters, it is the version that
set them aside. A version is written with a digit in base sixteen on either side of its point, so that 11
stands for version 1.1 and F0 for version 15.0.

## Main definitions

* `versions`, `versionNames` — the versions up to 15.0.
* `isPresent` — the code points that a version has.
-/

namespace PathQuery.Unicode

/-- The versions of Unicode that have added characters. -/
def versions : List Nat :=
  [0x11, 0x20, 0x21, 0x30, 0x31, 0x32, 0x40, 0x41, 0x50, 0x51, 0x52, 0x60, 0x61, 0x62, 0x63, 0x70, 0x80,
   0x90, 0xA0, 0xB0, 0xC0, 0xC1, 0xD0, 0xE0, 0xF0]

/-- The names of a version, such as `6.0` and `V6_0`. -/
def versionNames (version : Nat) : List String :=
  let major := toString (version / 16)
  let minor := toString (version % 16)
  [major ++ "." ++ minor, "V" ++ major ++ "_" ++ minor]

/-- The age of a code point. A run goes on over code points that have no age. -/
def age : Partition Nat := Partition.ofText codePoint
  "0:11 1F6:30 1FA:11 218:30 220:32 221:40 222:30 234:40 237:41 242:50 250:11 2A9:30 2AE:40
  2B0:11 2DF:30 2E0:11 2EA:30 2EF:40 300:11 346:30 34F:32 350:40 358:41 35D:40 360:11 362:30
  363:32 370:51 374:11 376:51 37A:11 37B:50 37E:11 37F:70 384:11 3CF:51 3D0:11 3D7:30 3D8:32
  3DA:11 3DB:30 3DC:11 3DD:30 3DE:11 3DF:30 3E0:11 3E1:30 3E2:11 3F4:31 3F6:32 3F7:40 3FC:41
  400:30 401:11 40D:30 40E:11 450:30 451:11 45D:30 45E:11 487:51 488:30 48A:32 48C:30 490:11
  4C5:32 4C7:11 4C9:32 4CB:11 4CD:32 4CF:50 4D0:11 4EC:30 4EE:11 4F6:41 4F8:11 4FA:50 500:32
  510:50 514:51 524:52 526:60 528:70 531:11 560:B0 561:11 588:B0 589:11 58A:30 58D:70 58F:61
  591:20 5A2:41 5A3:20 5B0:11 5BA:50 5BB:11 5C4:20 5C5:41 5D0:11 5EF:B0 5F0:11 600:40 604:61
  605:70 606:51 60B:41 60C:11 60D:40 616:51 61B:11 61C:63 61D:E0 61E:41 61F:11 620:60 621:11
  63B:51 640:11 653:30 656:40 659:41 65F:60 660:11 66E:32 670:11 6B8:30 6BA:11 6BF:30 6C0:11
  6CF:30 6D0:11 6EE:40 6F0:11 6FA:30 6FF:40 700:30 72D:40 730:30 74D:40 750:41 76E:51 780:30
  7B1:32 7C0:50 7FD:B0 800:52 840:60 860:A0 870:E0 8A0:61 8A1:70 8A2:61 8AD:70 8B3:80 8B5:E0
  8B6:90 8BE:D0 8C8:E0 8D3:B0 8D4:90 8E3:80 8E4:61 8FF:70 900:52 901:11 904:40 905:11 93A:60
  93C:11 94E:52 94F:60 950:11 955:52 956:60 958:11 971:51 973:60 978:70 979:52 97B:50 97D:41
  97E:50 980:70 981:11 9BD:40 9BE:11 9CE:41 9D7:11 9FB:52 9FC:A0 9FE:B0 A01:40 A02:11 A03:40
  A05:11 A51:51 A59:11 A75:51 A76:B0 A81:11 A8C:40 A8D:11 AE1:40 AE6:11 AF0:61 AF1:40 AF9:80
  AFA:A0 B01:11 B35:40 B36:11 B44:51 B47:11 B55:D0 B56:11 B62:51 B66:11 B71:40 B72:60 B82:11
  BB6:41 BB7:11 BD0:51 BD7:11 BE6:41 BE7:11 BF3:40 C00:70 C01:11 C04:B0 C05:11 C34:70 C35:11
  C3C:E0 C3D:51 C3E:11 C58:51 C5A:80 C5D:E0 C60:11 C62:51 C66:11 C77:C0 C78:51 C80:90 C81:70
  C82:11 C84:B0 C85:11 CBC:40 CBE:11 CDD:E0 CDE:11 CE2:50 CE6:11 CF1:50 CF3:F0 D00:A0 D01:70
  D02:11 D04:D0 D05:11 D29:60 D2A:11 D3A:60 D3B:A0 D3D:51 D3E:11 D44:51 D46:11 D4E:60 D4F:90
  D57:11 D58:90 D5F:80 D60:11 D62:51 D66:11 D70:51 D76:90 D79:51 D81:D0 D82:30 DE6:70 DF2:30
  E01:11 E86:C0 E87:11 E89:C0 E8A:11 E8C:C0 E8D:11 E8E:C0 E94:11 E98:C0 E99:11 EA0:C0 EA1:11
  EA8:C0 EAA:11 EAC:C0 EAD:11 EBA:C0 EBB:11 ECE:F0 ED0:11 EDE:61 F00:20 F6A:30 F6B:51 F71:20
  F8C:60 F90:20 F96:30 F97:20 FAE:30 FB1:20 FB8:30 FB9:20 FBA:30 FCE:51 FCF:30 FD0:41 FD2:51
  FD5:52 FD9:60 1000:30 1022:51 1023:30 1028:51 1029:30 102B:51 102C:30 1033:51 1036:30 103A:51
  1040:30 105A:51 109A:52 109E:51 10A0:11 10C7:61 10D0:11 10F7:32 10F9:41 10FB:11 10FC:41
  10FD:61 1100:11 115A:52 115F:11 11A3:52 11A8:11 11FA:52 1200:30 1207:41 1208:30 1247:41
  1248:30 1287:41 1288:30 12AF:41 12B0:30 12CF:41 12D0:30 12EF:41 12F0:30 130F:41 1310:30
  131F:41 1320:30 1347:41 1348:30 135D:60 135F:41 1361:30 1380:41 13A0:30 13F5:80 1400:52
  1401:30 1677:52 1680:30 16F1:70 1700:32 170D:E0 170E:32 1715:E0 1720:32 1780:30 17DD:40
  17E0:30 17F0:40 1800:30 180F:E0 1810:30 1878:B0 1880:30 18AA:51 18B0:52 1900:40 191D:70
  1920:40 1980:41 19AA:52 19B0:41 19DA:52 19DE:41 19E0:40 1A00:41 1A20:52 1AB0:70 1ABF:D0
  1AC1:E0 1B00:50 1B4C:E0 1B50:50 1B7D:E0 1B80:51 1BAB:61 1BAE:51 1BBA:61 1BC0:60 1C00:51
  1C80:90 1C90:B0 1CC0:61 1CD0:52 1CF3:61 1CF7:A0 1CF8:70 1CFA:C0 1D00:40 1D6C:41 1DC4:50
  1DCB:51 1DE7:70 1DF6:A0 1DFA:E0 1DFB:90 1DFC:60 1DFD:52 1DFE:50 1E00:11 1E9B:20 1E9C:51
  1EA0:11 1EFA:51 1F00:11 202F:30 2030:11 2047:32 2048:30 204E:32 2053:40 2055:41 2057:32
  2058:41 205F:32 2064:51 2066:63 206A:11 2071:32 2074:11 2090:41 2095:60 20A0:11 20AB:20
  20AC:21 20AD:30 20B0:32 20B2:41 20B6:52 20B9:60 20BA:62 20BB:70 20BE:80 20BF:A0 20C0:E0
  20D0:11 20E2:30 20E4:32 20EB:41 20EC:50 20F0:51 2100:11 2139:30 213B:40 213C:41 213D:32
  214C:41 214D:50 214F:51 2150:52 2153:11 2183:30 2184:50 2185:51 2189:52 218A:80 2190:11
  21EB:30 21F4:32 2200:11 22F2:32 2300:11 2301:30 2302:11 237B:30 237C:32 237D:30 239B:32
  23CF:40 23D1:41 23DC:50 23E8:52 23E9:60 23F4:70 23FB:90 23FF:A0 2400:11 2425:30 2440:11
  24EB:32 24FF:40 2500:11 2596:32 25A0:11 25F0:30 25F8:32 2600:11 2614:40 2616:32 2618:41
  2619:30 261A:11 2670:30 2672:32 267E:41 2680:32 268A:40 2692:41 269D:51 269E:52 26A0:40
  26A2:41 26B2:50 26B3:51 26BD:52 26C0:51 26C4:52 26CE:60 26CF:52 26E2:60 26E3:52 26E4:60
  26E8:52 2700:70 2701:11 2705:60 2706:11 270A:60 270C:11 2728:60 2729:11 274C:60 274D:11
  274E:60 274F:11 2753:60 2756:11 2757:52 2758:11 275F:60 2761:11 2768:32 2776:11 2795:60
  2798:11 27B0:60 27B1:11 27BF:60 27C0:41 27C7:50 27CB:61 27CC:51 27CD:61 27CE:60 27D0:32
  27EC:51 27F0:32 2800:30 2900:32 2B00:40 2B0E:41 2B14:50 2B1B:51 2B20:50 2B24:51 2B4D:70
  2B50:51 2B55:52 2B5A:70 2B97:D0 2B98:70 2BBA:B0 2BBD:70 2BC9:C0 2BCA:70 2BD2:A0 2BD3:B0
  2BEC:80 2BF0:B0 2BFF:C0 2C00:41 2C2F:E0 2C30:41 2C5F:E0 2C60:50 2C6D:51 2C70:52 2C71:51
  2C74:50 2C78:51 2C7E:52 2C80:41 2CEB:52 2CF2:61 2CF9:41 2D27:61 2D30:41 2D66:61 2D6F:41
  2D70:60 2D80:41 2DE0:51 2E00:41 2E18:51 2E1C:41 2E1E:51 2E31:52 2E32:61 2E3C:70 2E43:90
  2E45:A0 2E4A:B0 2E4F:C0 2E50:D0 2E53:E0 2E80:30 3000:11 3038:30 303B:32 303E:30 303F:11
  3095:32 3099:11 309F:32 30A1:11 30FF:32 3105:11 312D:51 312E:A0 312F:B0 3131:11 31A0:30
  31B8:60 31BB:D0 31C0:41 31D0:51 31F0:32 3200:11 321D:40 3220:11 3244:52 3250:40 3251:32
  3260:11 327C:40 327E:41 327F:11 32B1:32 32C0:11 32CC:40 32D0:11 32FF:C1 3300:11 3377:40
  337B:11 33DE:40 33E0:11 33FF:40 3400:30 4DB6:D0 4DC0:40 4E00:11 9FA6:41 9FBC:51 9FC4:52
  9FCC:61 9FCD:80 9FD6:A0 9FEB:B0 9FF0:D0 9FFD:E0 A000:30 A4A2:32 A4A4:30 A4B4:32 A4B5:30
  A4C1:32 A4C2:30 A4C5:32 A4C6:30 A4D0:52 A500:51 A660:60 A662:51 A674:61 A67C:51 A698:70
  A69E:80 A69F:61 A6A0:52 A700:41 A717:50 A71B:51 A720:50 A722:51 A78D:60 A78F:80 A790:60
  A792:61 A794:70 A7A0:60 A7AA:61 A7AB:70 A7AE:90 A7AF:B0 A7B0:70 A7B2:80 A7B8:B0 A7BA:C0
  A7C0:E0 A7C2:C0 A7C7:D0 A7D0:E0 A7F5:D0 A7F7:70 A7F8:61 A7FA:60 A7FB:51 A800:41 A82C:D0
  A830:52 A840:50 A880:51 A8C5:90 A8CE:51 A8E0:52 A8FC:80 A8FE:B0 A900:51 A960:52 A9E0:70
  AA00:51 AA60:52 AA7C:70 AA80:52 AAE0:61 AB01:60 AB30:70 AB60:80 AB64:70 AB66:C0 AB68:D0
  AB70:80 ABC0:52 AC00:20 D7B0:52 D800:20 E000:11 FA2E:61 FA30:32 FA6B:52 FA70:41 FB00:11
  FB1D:30 FB1E:11 FBB2:60 FBC2:E0 FBD3:11 FD40:E0 FD50:11 FDCF:E0 FDD0:31 FDF0:11 FDFC:32
  FDFD:40 FDFE:E0 FE00:32 FE10:41 FE20:11 FE24:51 FE27:70 FE2E:80 FE30:11 FE45:32 FE47:40
  FE49:11 FE73:32 FE74:11 FF5F:32 FF61:11 FFF9:30 FFFC:21 FFFD:11 10000:40 10140:41 1018B:70
  1018D:90 10190:51 1019C:D0 101A0:70 101D0:51 102E0:70 10300:31 1031F:70 10320:31 1032D:A0
  10330:31 10350:70 10380:40 103A0:41 10400:31 10426:40 10428:31 1044E:40 104B0:90 10500:70
  10570:E0 10600:70 10780:E0 10800:40 10840:52 10860:70 108E0:80 10900:50 1091A:52 1091F:50
  10920:51 10980:61 109BC:80 109BE:61 109C0:80 10A00:41 10A34:B0 10A38:41 10A48:B0 10A50:41
  10A60:52 10A80:70 10B00:52 10B80:70 10C00:52 10C80:80 10D00:B0 10E60:52 10E80:D0 10EFD:F0
  10F00:B0 10F70:E0 10FB0:D0 10FE0:C0 11000:60 11070:E0 1107F:70 11080:52 110C2:E0 110CD:B0
  110D0:61 11144:B0 11147:D0 11150:70 11180:61 111C9:80 111CD:70 111CE:D0 111D0:61 111DA:70
  111DB:80 111E1:70 1123E:90 1123F:F0 11280:80 112B0:70 11300:80 11301:70 1133B:B0 1133C:70
  11350:80 11357:70 11400:90 1145A:D0 1145B:90 1145E:B0 1145F:C0 11460:D0 11480:70 115CA:80
  11600:70 11660:90 11680:61 116B8:C0 116B9:E0 116C0:61 11700:80 1171A:B0 1171D:80 11740:E0
  11800:B0 118A0:70 11900:D0 119A0:C0 11A00:A0 11A84:C0 11A86:A0 11A9D:B0 11A9E:A0 11AB0:E0
  11AC0:70 11B00:F0 11C00:90 11D00:A0 11D60:B0 11F00:F0 11FB0:D0 11FC0:C0 12000:50 1236F:70
  12399:80 12400:50 12463:70 12470:50 12474:70 12480:80 12F90:E0 13000:52 1342F:F0 13430:C0
  13439:F0 14400:80 16800:60 16A40:70 16A70:E0 16AD0:70 16E40:B0 16F00:61 16F45:C0 16F50:61
  16F7F:C0 16F8F:61 16FE0:90 16FE1:A0 16FE2:C0 16FE4:D0 17000:90 187ED:B0 187F2:C0 18800:90
  18AF3:D0 1AFF0:E0 1B000:60 1B002:A0 1B11F:E0 1B132:F0 1B150:C0 1B155:F0 1B164:C0 1B170:A0
  1BC00:70 1CF00:E0 1D000:31 1D129:51 1D12A:31 1D1DE:80 1D1E9:E0 1D200:41 1D2C0:F0 1D2E0:B0
  1D300:40 1D360:50 1D372:B0 1D400:31 1D4C1:40 1D4C2:31 1D6A4:41 1D6A8:31 1D7CA:50 1D7CE:31
  1D800:80 1DF00:E0 1DF25:F0 1E000:90 1E030:F0 1E100:C0 1E290:E0 1E2C0:C0 1E4D0:F0 1E7E0:E0
  1E800:70 1E900:90 1E94B:C0 1E950:90 1EC71:B0 1ED01:C0 1EE00:61 1F000:51 1F0A0:60 1F0BF:70
  1F0C1:60 1F0E0:70 1F100:52 1F10B:70 1F10D:D0 1F110:52 1F12F:B0 1F130:60 1F131:52 1F132:60
  1F13D:52 1F13E:60 1F13F:52 1F140:60 1F142:52 1F143:60 1F146:52 1F147:60 1F14A:52 1F14F:60
  1F157:52 1F158:60 1F15F:52 1F160:60 1F16A:61 1F16C:C0 1F16D:D0 1F170:60 1F179:52 1F17A:60
  1F17B:52 1F17D:60 1F17F:52 1F180:60 1F18A:52 1F18E:60 1F190:52 1F191:60 1F19B:90 1F1AD:D0
  1F1E6:60 1F200:52 1F201:60 1F210:52 1F232:60 1F23B:90 1F240:52 1F250:60 1F260:A0 1F300:60
  1F321:70 1F32D:80 1F330:60 1F336:70 1F337:60 1F37D:70 1F37E:80 1F380:60 1F394:70 1F3A0:60
  1F3C5:70 1F3C6:60 1F3CB:70 1F3CF:80 1F3D4:70 1F3E0:60 1F3F1:70 1F3F8:80 1F400:60 1F43F:70
  1F440:60 1F441:70 1F442:60 1F4F8:70 1F4F9:60 1F4FD:70 1F4FF:80 1F500:60 1F53E:70 1F540:61
  1F544:70 1F54B:80 1F550:60 1F568:70 1F57A:90 1F57B:70 1F5A4:90 1F5A5:70 1F5FB:60 1F600:61
  1F601:60 1F611:61 1F612:60 1F615:61 1F616:60 1F617:61 1F618:60 1F619:61 1F61A:60 1F61B:61
  1F61C:60 1F61F:61 1F620:60 1F626:61 1F628:60 1F62C:61 1F62D:60 1F62E:61 1F630:60 1F634:61
  1F635:60 1F641:70 1F643:80 1F645:60 1F650:70 1F680:60 1F6C6:70 1F6D0:80 1F6D1:90 1F6D3:A0
  1F6D5:C0 1F6D6:D0 1F6DC:F0 1F6DD:E0 1F6E0:70 1F6F4:90 1F6F7:A0 1F6F9:B0 1F6FA:C0 1F6FB:D0
  1F700:60 1F774:F0 1F780:70 1F7D5:B0 1F7D9:F0 1F7E0:C0 1F7F0:E0 1F800:70 1F8B0:D0 1F900:A0
  1F90C:D0 1F90D:C0 1F910:80 1F919:90 1F91F:A0 1F920:90 1F928:A0 1F930:90 1F931:A0 1F933:90
  1F93F:C0 1F940:90 1F94C:A0 1F94D:B0 1F950:90 1F95F:A0 1F96C:B0 1F971:C0 1F972:D0 1F973:B0
  1F977:D0 1F979:E0 1F97A:B0 1F97B:C0 1F97C:B0 1F980:80 1F985:90 1F992:A0 1F998:B0 1F9A3:D0
  1F9A5:C0 1F9AB:D0 1F9AE:C0 1F9B0:B0 1F9BA:C0 1F9C0:80 1F9C1:B0 1F9C3:C0 1F9CB:D0 1F9CC:E0
  1F9CD:C0 1F9D0:A0 1F9E7:B0 1FA00:C0 1FA60:B0 1FA70:C0 1FA74:D0 1FA75:F0 1FA78:C0 1FA7B:E0
  1FA80:C0 1FA83:D0 1FA87:F0 1FA90:C0 1FA96:D0 1FAA9:E0 1FAAD:F0 1FAB0:D0 1FAB7:E0 1FABB:F0
  1FAC0:D0 1FAC3:E0 1FACE:F0 1FAD0:D0 1FAD7:E0 1FADA:F0 1FAE0:E0 1FAE8:F0 1FAF0:E0 1FAF7:F0
  1FB00:D0 1FFFE:20 20000:31 2A6D7:D0 2A6DE:E0 2A700:52 2B735:E0 2B739:F0 2B740:60 2B820:80
  2CEB0:A0 2F800:31 2FFFE:20 30000:D0 31350:F0 3FFFE:20 E0001:31 E0100:40 EFFFE:20"

/-- Whether a code point is assigned, or set aside for good. -/
def hasAge (n : Nat) : Bool := category n ≠ .cn || noncharacterCodePoint.contains n

/-- Whether a version has a code point already. -/
def isPresent (version n : Nat) : Bool := hasAge n && (age.value? n).any (· ≤ version)

end PathQuery.Unicode
