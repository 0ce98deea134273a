import CallPolicy.Text.CharTables

/-!
# CallPolicy.Xml.CodePages

The encodings with one octet per character that go by a name, beside those that a document's octets
show by themselves. Below 128 all of them are ASCII. A page is a text of decimal numbers in pairs:
a code point and how many octets in turn stand for it and the code points after it, or zero and how
many octets stand for nothing.
-/

namespace CallPolicy
namespace Xml
namespace CodePages

/-- The octets of a page from 128 on, by the names it goes by. -/
def pages : List (String × String) :=
  [("646 ansi_x3.4_1968 ansi_x3.4_1986 ansi_x3_4_1968 ascii cp367 cp65001 csascii csiso2022jp
      hz hz_gb hz_gb_2312 hzgb ibm367 iso2022_jp iso2022_jp_1 iso2022_jp_2 iso2022_jp_2004
      iso2022_jp_3 iso2022_jp_ext iso2022jp iso2022jp_1 iso2022jp_2 iso2022jp_2004 iso2022jp_3
      iso2022jp_ext iso646_us iso_2022_jp iso_2022_jp_1 iso_2022_jp_2 iso_2022_jp_2004
      iso_2022_jp_3 iso_2022_jp_ext iso_646.irv_1991 iso_ir_6 u8 us us_ascii utf utf8
      utf8_ucs2 utf8_ucs4 utf_8 utf_8_sig",
      "0 128"),
    ("8859 charmap cp819 csisolatin1 ibm819 iso8859 iso8859_1 iso_8859_1 iso_8859_1_1987
      iso_ir_100 l1 latin latin1 latin_1 raw_unicode_escape unicode_escape",
      "128 128"),
    ("cp1006",
      "128 33 1776 10 1548 1 1563 1 173 1 1567 1 65153 1 65165 2 65166 2 65169 1 64342 1 64344
      1 65171 1 65173 1 65175 1 64358 1 64360 1 65177 1 65179 1 65181 1 65183 1 64378 1 64380
      1 65185 1 65187 1 65189 1 65191 1 65193 1 64388 1 65195 1 65197 1 64396 1 65199 1 64394
      1 65201 1 65203 1 65205 1 65207 1 65209 1 65211 1 65213 1 65215 1 65217 1 65221 1 65225
      9 65235 1 65237 1 65239 1 65241 1 65243 1 64402 1 64404 1 65245 1 65247 3 65251 1 64414
      1 65253 1 65255 1 65157 1 65261 1 64422 1 64424 3 65152 1 65161 3 65265 3 64432 1 64430
      1 65148 2"),
    ("1125 cp1125 cp866u ibm1125 ruscii",
      "1040 48 9617 3 9474 1 9508 1 9569 2 9558 1 9557 1 9571 1 9553 1 9559 1 9565 1 9564 1
      9563 1 9488 1 9492 1 9524 1 9516 1 9500 1 9472 1 9532 1 9566 2 9562 1 9556 1 9577 1 9574
      1 9568 1 9552 1 9580 1 9575 2 9572 2 9561 1 9560 1 9554 2 9579 1 9578 1 9496 1 9484 1
      9608 1 9604 1 9612 1 9616 1 9600 1 1088 16 1025 1 1105 1 1168 2 1028 1 1108 1 1030 1
      1110 1 1031 1 1111 1 183 1 8730 1 8470 1 164 1 9632 1 160 1"),
    ("1250 cp1250 windows_1250",
      "8364 1 0 1 8218 1 0 1 8222 1 8230 1 8224 2 0 1 8240 1 352 1 8249 1 346 1 356 1 381 1 377
      1 0 1 8216 2 8220 2 8226 1 8211 2 0 1 8482 1 353 1 8250 1 347 1 357 1 382 1 378 1 160 1
      711 1 728 1 321 1 164 1 260 1 166 4 350 1 171 4 379 1 176 2 731 1 322 1 180 5 261 1 351
      1 187 1 317 1 733 1 318 1 380 1 340 1 193 2 258 1 196 1 313 1 262 1 199 1 268 1 201 1
      280 1 203 1 282 1 205 2 270 1 272 1 323 1 327 1 211 2 336 1 214 2 344 1 366 1 218 1 368
      1 220 2 354 1 223 1 341 1 225 2 259 1 228 1 314 1 263 1 231 1 269 1 233 1 281 1 235 1
      283 1 237 2 271 1 273 1 324 1 328 1 243 2 337 1 246 2 345 1 367 1 250 1 369 1 252 2 355
      1 729 1"),
    ("1251 cp1251 windows_1251",
      "1026 2 8218 1 1107 1 8222 1 8230 1 8224 2 8364 1 8240 1 1033 1 8249 1 1034 1 1036 1 1035
      1 1039 1 1106 1 8216 2 8220 2 8226 1 8211 2 0 1 8482 1 1113 1 8250 1 1114 1 1116 1 1115
      1 1119 1 160 1 1038 1 1118 1 1032 1 164 1 1168 1 166 2 1025 1 169 1 1028 1 171 4 1031 1
      176 2 1030 1 1110 1 1169 1 181 3 1105 1 8470 1 1108 1 187 1 1112 1 1029 1 1109 1 1111 1
      1040 64"),
    ("1252 cp1252 windows_1252",
      "8364 1 0 1 8218 1 402 1 8222 1 8230 1 8224 2 710 1 8240 1 352 1 8249 1 338 1 0 1 381 1 0
      2 8216 2 8220 2 8226 1 8211 2 732 1 8482 1 353 1 8250 1 339 1 0 1 382 1 376 1 160 96"),
    ("1253 cp1253 windows_1253",
      "8364 1 0 1 8218 1 402 1 8222 1 8230 1 8224 2 0 1 8240 1 0 1 8249 1 0 5 8216 2 8220 2
      8226 1 8211 2 0 1 8482 1 0 1 8250 1 0 4 160 1 901 2 163 7 0 1 171 4 8213 1 176 4 900 1
      181 3 904 3 187 1 908 1 189 1 910 20 0 1 931 44 0 1"),
    ("1254 cp1254 windows_1254",
      "8364 1 0 1 8218 1 402 1 8222 1 8230 1 8224 2 710 1 8240 1 352 1 8249 1 338 1 0 4 8216 2
      8220 2 8226 1 8211 2 732 1 8482 1 353 1 8250 1 339 1 0 2 376 1 160 48 286 1 209 12 304 1
      350 1 223 17 287 1 241 12 305 1 351 1 255 1"),
    ("1255 cp1255 windows_1255",
      "8364 1 0 1 8218 1 402 1 8222 1 8230 1 8224 2 710 1 8240 1 0 1 8249 1 0 5 8216 2 8220 2
      8226 1 8211 2 732 1 8482 1 0 1 8250 1 0 4 160 4 8362 1 165 5 215 1 171 15 247 1 187 5
      1456 10 0 1 1467 9 1520 5 0 7 1488 27 0 2 8206 2 0 1"),
    ("1256 cp1256 windows_1256",
      "8364 1 1662 1 8218 1 402 1 8222 1 8230 1 8224 2 710 1 8240 1 1657 1 8249 1 338 1 1670 1
      1688 1 1672 1 1711 1 8216 2 8220 2 8226 1 8211 2 1705 1 8482 1 1681 1 8250 1 339 1 8204
      2 1722 1 160 1 1548 1 162 8 1726 1 171 15 1563 1 187 4 1567 1 1729 1 1569 22 215 1 1591
      4 1600 4 224 1 1604 1 226 1 1605 4 231 5 1609 2 238 2 1611 4 244 1 1615 2 247 1 1617 1
      249 1 1618 1 251 2 8206 2 1746 1"),
    ("1257 cp1257 windows_1257",
      "8364 1 0 1 8218 1 0 1 8222 1 8230 1 8224 2 0 1 8240 1 0 1 8249 1 0 1 168 1 711 1 184 1 0
      1 8216 2 8220 2 8226 1 8211 2 0 1 8482 1 0 1 8250 1 0 1 175 1 731 1 0 1 160 1 0 1 162 3
      0 1 166 2 216 1 169 1 342 1 171 4 198 1 176 8 248 1 185 1 343 1 187 4 230 1 260 1 302 1
      256 1 262 1 196 2 280 1 274 1 268 1 201 1 377 1 278 1 290 1 310 1 298 1 315 1 352 1 323
      1 325 1 211 1 332 1 213 3 370 1 321 1 346 1 362 1 220 1 379 1 381 1 223 1 261 1 303 1
      257 1 263 1 228 2 281 1 275 1 269 1 233 1 378 1 279 1 291 1 311 1 299 1 316 1 353 1 324
      1 326 1 243 1 333 1 245 3 371 1 322 1 347 1 363 1 252 1 380 1 382 1 729 1"),
    ("1258 cp1258 windows_1258",
      "8364 1 0 1 8218 1 402 1 8222 1 8230 1 8224 2 710 1 8240 1 0 1 8249 1 338 1 0 4 8216 2
      8220 2 8226 1 8211 2 732 1 8482 1 0 1 8250 1 339 1 0 2 376 1 160 35 258 1 196 8 768 1
      205 3 272 1 209 1 777 1 211 2 416 1 214 7 431 1 771 1 223 4 259 1 228 8 769 1 237 3 273
      1 241 1 803 1 243 2 417 1 246 7 432 1 8363 1 255 1"),
    ("437 cp437 cspc8codepage437 ibm437",
      "199 1 252 1 233 1 226 1 228 1 224 1 229 1 231 1 234 2 232 1 239 1 238 1 236 1 196 2 201
      1 230 1 198 1 244 1 246 1 242 1 251 1 249 1 255 1 214 1 220 1 162 2 165 1 8359 1 402 1
      225 1 237 1 243 1 250 1 241 1 209 1 170 1 186 1 191 1 8976 1 172 1 189 1 188 1 161 1 171
      1 187 1 9617 3 9474 1 9508 1 9569 2 9558 1 9557 1 9571 1 9553 1 9559 1 9565 1 9564 1
      9563 1 9488 1 9492 1 9524 1 9516 1 9500 1 9472 1 9532 1 9566 2 9562 1 9556 1 9577 1 9574
      1 9568 1 9552 1 9580 1 9575 2 9572 2 9561 1 9560 1 9554 2 9579 1 9578 1 9496 1 9484 1
      9608 1 9604 1 9612 1 9616 1 9600 1 945 1 223 1 915 1 960 1 931 1 963 1 181 1 964 1 934 1
      920 1 937 1 948 1 8734 1 966 1 949 1 8745 1 8801 1 177 1 8805 1 8804 1 8992 2 247 1 8776
      1 176 1 8729 1 183 1 8730 1 8319 1 178 1 9632 1 160 1"),
    ("cp720",
      "128 2 233 1 226 1 132 1 224 1 134 1 231 1 234 2 232 1 239 1 238 1 141 4 1617 2 244 1 164
      1 1600 1 251 1 249 1 1569 4 163 1 1573 17 171 1 187 1 9617 3 9474 1 9508 1 9569 2 9558 1
      9557 1 9571 1 9553 1 9559 1 9565 1 9564 1 9563 1 9488 1 9492 1 9524 1 9516 1 9500 1 9472
      1 9532 1 9566 2 9562 1 9556 1 9577 1 9574 1 9568 1 9552 1 9580 1 9575 2 9572 2 9561 1
      9560 1 9554 2 9579 1 9578 1 9496 1 9484 1 9608 1 9604 1 9612 1 9616 1 9600 1 1590 5 1601
      1 181 1 1602 9 8801 1 1611 6 8776 1 176 1 8729 1 183 1 8730 1 8319 1 178 1 9632 1 160 1"),
    ("cp737",
      "913 17 931 7 945 17 963 1 962 1 964 5 9617 3 9474 1 9508 1 9569 2 9558 1 9557 1 9571 1
      9553 1 9559 1 9565 1 9564 1 9563 1 9488 1 9492 1 9524 1 9516 1 9500 1 9472 1 9532 1 9566
      2 9562 1 9556 1 9577 1 9574 1 9568 1 9552 1 9580 1 9575 2 9572 2 9561 1 9560 1 9554 2
      9579 1 9578 1 9496 1 9484 1 9608 1 9604 1 9612 1 9616 1 9600 1 969 1 940 3 970 1 943 1
      972 2 971 1 974 1 902 1 904 3 908 1 910 2 177 1 8805 1 8804 1 938 2 247 1 8776 1 176 1
      8729 1 183 1 8730 1 8319 1 178 1 9632 1 160 1"),
    ("775 cp775 cspc775baltic ibm775",
      "262 1 252 1 233 1 257 1 228 1 291 1 229 1 263 1 322 1 275 1 342 2 299 1 377 1 196 2 201
      1 230 1 198 1 333 1 246 1 290 1 162 1 346 2 214 1 220 1 248 1 163 1 216 1 215 1 164 1
      256 1 298 1 243 1 379 2 378 1 8221 1 166 1 169 1 174 1 172 1 189 1 188 1 321 1 171 1 187
      1 9617 3 9474 1 9508 1 260 1 268 1 280 1 278 1 9571 1 9553 1 9559 1 9565 1 302 1 352 1
      9488 1 9492 1 9524 1 9516 1 9500 1 9472 1 9532 1 370 1 362 1 9562 1 9556 1 9577 1 9574 1
      9568 1 9552 1 9580 1 381 1 261 1 269 1 281 1 279 1 303 1 353 1 371 1 363 1 382 1 9496 1
      9484 1 9608 1 9604 1 9612 1 9616 1 9600 1 211 1 223 1 332 1 323 1 245 1 213 1 181 1 324
      1 310 2 315 2 326 1 274 1 325 1 8217 1 173 1 177 1 8220 1 190 1 182 1 167 1 247 1 8222 1
      176 1 8729 1 183 1 185 1 179 1 178 1 9632 1 160 1"),
    ("850 cp850 cspc850multilingual ibm850",
      "199 1 252 1 233 1 226 1 228 1 224 1 229 1 231 1 234 2 232 1 239 1 238 1 236 1 196 2 201
      1 230 1 198 1 244 1 246 1 242 1 251 1 249 1 255 1 214 1 220 1 248 1 163 1 216 1 215 1
      402 1 225 1 237 1 243 1 250 1 241 1 209 1 170 1 186 1 191 1 174 1 172 1 189 1 188 1 161
      1 171 1 187 1 9617 3 9474 1 9508 1 193 2 192 1 169 1 9571 1 9553 1 9559 1 9565 1 162 1
      165 1 9488 1 9492 1 9524 1 9516 1 9500 1 9472 1 9532 1 227 1 195 1 9562 1 9556 1 9577 1
      9574 1 9568 1 9552 1 9580 1 164 1 240 1 208 1 202 2 200 1 305 1 205 3 9496 1 9484 1 9608
      1 9604 1 166 1 204 1 9600 1 211 1 223 1 212 1 210 1 245 1 213 1 181 1 254 1 222 1 218 2
      217 1 253 1 221 1 175 1 180 1 173 1 177 1 8215 1 190 1 182 1 167 1 247 1 184 1 176 1 168
      1 183 1 185 1 179 1 178 1 9632 1 160 1"),
    ("852 cp852 cspcp852 ibm852",
      "199 1 252 1 233 1 226 1 228 1 367 1 263 1 231 1 322 1 235 1 336 2 238 1 377 1 196 1 262
      1 201 1 313 2 244 1 246 1 317 2 346 2 214 1 220 1 356 2 321 1 215 1 269 1 225 1 237 1
      243 1 250 1 260 2 381 2 280 2 172 1 378 1 268 1 351 1 171 1 187 1 9617 3 9474 1 9508 1
      193 2 282 1 350 1 9571 1 9553 1 9559 1 9565 1 379 2 9488 1 9492 1 9524 1 9516 1 9500 1
      9472 1 9532 1 258 2 9562 1 9556 1 9577 1 9574 1 9568 1 9552 1 9580 1 164 1 273 1 272 1
      270 1 203 1 271 1 327 1 205 2 283 1 9496 1 9484 1 9608 1 9604 1 354 1 366 1 9600 1 211 1
      223 1 212 1 323 2 328 1 352 2 340 1 218 1 341 1 368 1 253 1 221 1 355 1 180 1 173 1 733
      1 731 1 711 1 728 1 167 1 247 1 184 1 176 1 168 1 729 1 369 1 344 2 9632 1 160 1"),
    ("855 cp855 csibm855 ibm855",
      "1106 1 1026 1 1107 1 1027 1 1105 1 1025 1 1108 1 1028 1 1109 1 1029 1 1110 1 1030 1 1111
      1 1031 1 1112 1 1032 1 1113 1 1033 1 1114 1 1034 1 1115 1 1035 1 1116 1 1036 1 1118 1
      1038 1 1119 1 1039 1 1102 1 1070 1 1098 1 1066 1 1072 1 1040 1 1073 1 1041 1 1094 1 1062
      1 1076 1 1044 1 1077 1 1045 1 1092 1 1060 1 1075 1 1043 1 171 1 187 1 9617 3 9474 1 9508
      1 1093 1 1061 1 1080 1 1048 1 9571 1 9553 1 9559 1 9565 1 1081 1 1049 1 9488 1 9492 1
      9524 1 9516 1 9500 1 9472 1 9532 1 1082 1 1050 1 9562 1 9556 1 9577 1 9574 1 9568 1 9552
      1 9580 1 164 1 1083 1 1051 1 1084 1 1052 1 1085 1 1053 1 1086 1 1054 1 1087 1 9496 1
      9484 1 9608 1 9604 1 1055 1 1103 1 9600 1 1071 1 1088 1 1056 1 1089 1 1057 1 1090 1 1058
      1 1091 1 1059 1 1078 1 1046 1 1074 1 1042 1 1100 1 1068 1 8470 1 173 1 1099 1 1067 1
      1079 1 1047 1 1096 1 1064 1 1101 1 1069 1 1097 1 1065 1 1095 1 1063 1 167 1 9632 1 160 1"),
    ("cp856",
      "1488 27 0 1 163 1 0 1 215 1 0 10 174 1 172 1 189 1 188 1 0 1 171 1 187 1 9617 3 9474 1
      9508 1 0 3 169 1 9571 1 9553 1 9559 1 9565 1 162 1 165 1 9488 1 9492 1 9524 1 9516 1
      9500 1 9472 1 9532 1 0 2 9562 1 9556 1 9577 1 9574 1 9568 1 9552 1 9580 1 164 1 0 9 9496
      1 9484 1 9608 1 9604 1 166 1 0 1 9600 1 0 6 181 1 0 7 175 1 180 1 173 1 177 1 8215 1 190
      1 182 1 167 1 247 1 184 1 176 1 168 1 183 1 185 1 179 1 178 1 9632 1 160 1"),
    ("857 cp857 csibm857 ibm857",
      "199 1 252 1 233 1 226 1 228 1 224 1 229 1 231 1 234 2 232 1 239 1 238 1 305 1 196 2 201
      1 230 1 198 1 244 1 246 1 242 1 251 1 249 1 304 1 214 1 220 1 248 1 163 1 216 1 350 2
      225 1 237 1 243 1 250 1 241 1 209 1 286 2 191 1 174 1 172 1 189 1 188 1 161 1 171 1 187
      1 9617 3 9474 1 9508 1 193 2 192 1 169 1 9571 1 9553 1 9559 1 9565 1 162 1 165 1 9488 1
      9492 1 9524 1 9516 1 9500 1 9472 1 9532 1 227 1 195 1 9562 1 9556 1 9577 1 9574 1 9568 1
      9552 1 9580 1 164 1 186 1 170 1 202 2 200 1 0 1 205 3 9496 1 9484 1 9608 1 9604 1 166 1
      204 1 9600 1 211 1 223 1 212 1 210 1 245 1 213 1 181 1 0 1 215 1 218 2 217 1 236 1 255 1
      175 1 180 1 173 1 177 1 0 1 190 1 182 1 167 1 247 1 184 1 176 1 168 1 183 1 185 1 179 1
      178 1 9632 1 160 1"),
    ("858 cp858 csibm858 ibm858",
      "199 1 252 1 233 1 226 1 228 1 224 1 229 1 231 1 234 2 232 1 239 1 238 1 236 1 196 2 201
      1 230 1 198 1 244 1 246 1 242 1 251 1 249 1 255 1 214 1 220 1 248 1 163 1 216 1 215 1
      402 1 225 1 237 1 243 1 250 1 241 1 209 1 170 1 186 1 191 1 174 1 172 1 189 1 188 1 161
      1 171 1 187 1 9617 3 9474 1 9508 1 193 2 192 1 169 1 9571 1 9553 1 9559 1 9565 1 162 1
      165 1 9488 1 9492 1 9524 1 9516 1 9500 1 9472 1 9532 1 227 1 195 1 9562 1 9556 1 9577 1
      9574 1 9568 1 9552 1 9580 1 164 1 240 1 208 1 202 2 200 1 8364 1 205 3 9496 1 9484 1
      9608 1 9604 1 166 1 204 1 9600 1 211 1 223 1 212 1 210 1 245 1 213 1 181 1 254 1 222 1
      218 2 217 1 253 1 221 1 175 1 180 1 173 1 177 1 8215 1 190 1 182 1 167 1 247 1 184 1 176
      1 168 1 183 1 185 1 179 1 178 1 9632 1 160 1"),
    ("860 cp860 csibm860 ibm860",
      "199 1 252 1 233 1 226 2 224 1 193 1 231 1 234 1 202 1 232 1 205 1 212 1 236 1 195 1 194
      1 201 1 192 1 200 1 244 2 242 1 218 1 249 1 204 1 213 1 220 1 162 2 217 1 8359 1 211 1
      225 1 237 1 243 1 250 1 241 1 209 1 170 1 186 1 191 1 210 1 172 1 189 1 188 1 161 1 171
      1 187 1 9617 3 9474 1 9508 1 9569 2 9558 1 9557 1 9571 1 9553 1 9559 1 9565 1 9564 1
      9563 1 9488 1 9492 1 9524 1 9516 1 9500 1 9472 1 9532 1 9566 2 9562 1 9556 1 9577 1 9574
      1 9568 1 9552 1 9580 1 9575 2 9572 2 9561 1 9560 1 9554 2 9579 1 9578 1 9496 1 9484 1
      9608 1 9604 1 9612 1 9616 1 9600 1 945 1 223 1 915 1 960 1 931 1 963 1 181 1 964 1 934 1
      920 1 937 1 948 1 8734 1 966 1 949 1 8745 1 8801 1 177 1 8805 1 8804 1 8992 2 247 1 8776
      1 176 1 8729 1 183 1 8730 1 8319 1 178 1 9632 1 160 1"),
    ("861 cp861 cp_is csibm861 ibm861",
      "199 1 252 1 233 1 226 1 228 1 224 1 229 1 231 1 234 2 232 1 208 1 240 1 222 1 196 2 201
      1 230 1 198 1 244 1 246 1 254 1 251 1 221 1 253 1 214 1 220 1 248 1 163 1 216 1 8359 1
      402 1 225 1 237 1 243 1 250 1 193 1 205 1 211 1 218 1 191 1 8976 1 172 1 189 1 188 1 161
      1 171 1 187 1 9617 3 9474 1 9508 1 9569 2 9558 1 9557 1 9571 1 9553 1 9559 1 9565 1 9564
      1 9563 1 9488 1 9492 1 9524 1 9516 1 9500 1 9472 1 9532 1 9566 2 9562 1 9556 1 9577 1
      9574 1 9568 1 9552 1 9580 1 9575 2 9572 2 9561 1 9560 1 9554 2 9579 1 9578 1 9496 1 9484
      1 9608 1 9604 1 9612 1 9616 1 9600 1 945 1 223 1 915 1 960 1 931 1 963 1 181 1 964 1 934
      1 920 1 937 1 948 1 8734 1 966 1 949 1 8745 1 8801 1 177 1 8805 1 8804 1 8992 2 247 1
      8776 1 176 1 8729 1 183 1 8730 1 8319 1 178 1 9632 1 160 1"),
    ("862 cp862 cspc862latinhebrew ibm862",
      "1488 27 162 2 165 1 8359 1 402 1 225 1 237 1 243 1 250 1 241 1 209 1 170 1 186 1 191 1
      8976 1 172 1 189 1 188 1 161 1 171 1 187 1 9617 3 9474 1 9508 1 9569 2 9558 1 9557 1
      9571 1 9553 1 9559 1 9565 1 9564 1 9563 1 9488 1 9492 1 9524 1 9516 1 9500 1 9472 1 9532
      1 9566 2 9562 1 9556 1 9577 1 9574 1 9568 1 9552 1 9580 1 9575 2 9572 2 9561 1 9560 1
      9554 2 9579 1 9578 1 9496 1 9484 1 9608 1 9604 1 9612 1 9616 1 9600 1 945 1 223 1 915 1
      960 1 931 1 963 1 181 1 964 1 934 1 920 1 937 1 948 1 8734 1 966 1 949 1 8745 1 8801 1
      177 1 8805 1 8804 1 8992 2 247 1 8776 1 176 1 8729 1 183 1 8730 1 8319 1 178 1 9632 1
      160 1"),
    ("863 cp863 csibm863 ibm863",
      "199 1 252 1 233 1 226 1 194 1 224 1 182 1 231 1 234 2 232 1 239 1 238 1 8215 1 192 1 167
      1 201 1 200 1 202 1 244 1 203 1 207 1 251 1 249 1 164 1 212 1 220 1 162 2 217 1 219 1
      402 1 166 1 180 1 243 1 250 1 168 1 184 1 179 1 175 1 206 1 8976 1 172 1 189 1 188 1 190
      1 171 1 187 1 9617 3 9474 1 9508 1 9569 2 9558 1 9557 1 9571 1 9553 1 9559 1 9565 1 9564
      1 9563 1 9488 1 9492 1 9524 1 9516 1 9500 1 9472 1 9532 1 9566 2 9562 1 9556 1 9577 1
      9574 1 9568 1 9552 1 9580 1 9575 2 9572 2 9561 1 9560 1 9554 2 9579 1 9578 1 9496 1 9484
      1 9608 1 9604 1 9612 1 9616 1 9600 1 945 1 223 1 915 1 960 1 931 1 963 1 181 1 964 1 934
      1 920 1 937 1 948 1 8734 1 966 1 949 1 8745 1 8801 1 177 1 8805 1 8804 1 8992 2 247 1
      8776 1 176 1 8729 1 183 1 8730 1 8319 1 178 1 9632 1 160 1"),
    ("865 cp865 csibm865 ibm865",
      "199 1 252 1 233 1 226 1 228 1 224 1 229 1 231 1 234 2 232 1 239 1 238 1 236 1 196 2 201
      1 230 1 198 1 244 1 246 1 242 1 251 1 249 1 255 1 214 1 220 1 248 1 163 1 216 1 8359 1
      402 1 225 1 237 1 243 1 250 1 241 1 209 1 170 1 186 1 191 1 8976 1 172 1 189 1 188 1 161
      1 171 1 164 1 9617 3 9474 1 9508 1 9569 2 9558 1 9557 1 9571 1 9553 1 9559 1 9565 1 9564
      1 9563 1 9488 1 9492 1 9524 1 9516 1 9500 1 9472 1 9532 1 9566 2 9562 1 9556 1 9577 1
      9574 1 9568 1 9552 1 9580 1 9575 2 9572 2 9561 1 9560 1 9554 2 9579 1 9578 1 9496 1 9484
      1 9608 1 9604 1 9612 1 9616 1 9600 1 945 1 223 1 915 1 960 1 931 1 963 1 181 1 964 1 934
      1 920 1 937 1 948 1 8734 1 966 1 949 1 8745 1 8801 1 177 1 8805 1 8804 1 8992 2 247 1
      8776 1 176 1 8729 1 183 1 8730 1 8319 1 178 1 9632 1 160 1"),
    ("866 cp866 csibm866 ibm866",
      "1040 48 9617 3 9474 1 9508 1 9569 2 9558 1 9557 1 9571 1 9553 1 9559 1 9565 1 9564 1
      9563 1 9488 1 9492 1 9524 1 9516 1 9500 1 9472 1 9532 1 9566 2 9562 1 9556 1 9577 1 9574
      1 9568 1 9552 1 9580 1 9575 2 9572 2 9561 1 9560 1 9554 2 9579 1 9578 1 9496 1 9484 1
      9608 1 9604 1 9612 1 9616 1 9600 1 1088 16 1025 1 1105 1 1028 1 1108 1 1031 1 1111 1
      1038 1 1118 1 176 1 8729 1 183 1 8730 1 8470 1 164 1 9632 1 160 1"),
    ("869 cp869 cp_gr csibm869 ibm869",
      "0 6 902 1 0 1 183 1 172 1 166 1 8216 2 904 1 8213 1 905 2 938 1 908 1 0 2 910 1 939 1
      169 1 911 1 178 2 940 1 163 1 941 3 970 1 912 1 972 2 913 7 189 1 920 2 171 1 187 1 9617
      3 9474 1 9508 1 922 4 9571 1 9553 1 9559 1 9565 1 926 2 9488 1 9492 1 9524 1 9516 1 9500
      1 9472 1 9532 1 928 2 9562 1 9556 1 9577 1 9574 1 9568 1 9552 1 9580 1 931 7 945 3 9496
      1 9484 1 9608 1 9604 1 948 2 9600 1 950 12 963 1 962 1 964 1 900 1 173 1 177 1 965 3 167
      1 968 1 901 1 176 1 168 1 969 1 971 1 944 1 974 1 9632 1 160 1"),
    ("cp874",
      "8364 1 0 4 8230 1 0 11 8216 2 8220 2 8226 1 8211 2 0 8 160 1 3585 58 0 4 3647 29 0 4"),
    ("cp1051 hp_roman8 ibm1051 r8 roman8",
      "128 33 192 1 194 1 200 1 202 2 206 2 180 1 715 1 710 1 168 1 732 1 217 1 219 1 8356 1
      175 1 221 1 253 1 176 1 199 1 231 1 209 1 241 1 161 1 191 1 164 1 163 1 165 1 167 1 402
      1 162 1 226 1 234 1 244 1 251 1 225 1 233 1 243 1 250 1 224 1 232 1 242 1 249 1 228 1
      235 1 246 1 252 1 197 1 238 1 216 1 198 1 229 1 237 1 248 1 230 1 196 1 236 1 214 1 220
      1 201 1 239 1 223 1 212 1 193 1 195 1 227 1 208 1 240 1 205 1 204 1 211 1 210 1 213 1
      245 1 352 2 218 1 376 1 255 1 222 1 254 1 183 1 181 2 190 1 8212 1 188 2 170 1 186 1 171
      1 9632 1 187 1 177 1 0 1"),
    ("csisolatin6 iso8859_10 iso_8859_10 iso_8859_10_1992 iso_ir_157 l6 latin6",
      "128 33 260 1 274 1 290 1 298 1 296 1 310 1 167 1 315 1 272 1 352 1 358 1 381 1 173 1 362
      1 330 1 176 1 261 1 275 1 291 1 299 1 297 1 311 1 183 1 316 1 273 1 353 1 359 1 382 1
      8213 1 363 1 331 1 256 1 193 6 302 1 268 1 201 1 280 1 203 1 278 1 205 4 325 1 332 1 211
      4 360 1 216 1 370 1 218 6 257 1 225 6 303 1 269 1 233 1 281 1 235 1 279 1 237 4 326 1
      333 1 243 4 361 1 248 1 371 1 250 5 312 1"),
    ("iso8859_11 iso_8859_11 iso_8859_11_2001 thai",
      "128 33 3585 58 0 4 3647 29 0 4"),
    ("iso8859_13 iso_8859_13 l7 latin7",
      "128 33 8221 1 162 3 8222 1 166 2 216 1 169 1 342 1 171 4 198 1 176 4 8220 1 181 3 248 1
      185 1 343 1 187 4 230 1 260 1 302 1 256 1 262 1 196 2 280 1 274 1 268 1 201 1 377 1 278
      1 290 1 310 1 298 1 315 1 352 1 323 1 325 1 211 1 332 1 213 3 370 1 321 1 346 1 362 1
      220 1 379 1 381 1 223 1 261 1 303 1 257 1 263 1 228 2 281 1 275 1 269 1 233 1 378 1 279
      1 291 1 311 1 299 1 316 1 353 1 324 1 326 1 243 1 333 1 245 3 371 1 322 1 347 1 363 1
      252 1 380 1 382 1 8217 1"),
    ("iso8859_14 iso_8859_14 iso_8859_14_1998 iso_celtic iso_ir_199 l8 latin8",
      "128 33 7682 2 163 1 266 2 7690 1 167 1 7808 1 169 1 7810 1 7691 1 7922 1 173 2 376 1
      7710 2 288 2 7744 2 182 1 7766 1 7809 1 7767 1 7811 1 7776 1 7923 1 7812 2 7777 1 192 16
      372 1 209 6 7786 1 216 6 374 1 223 17 373 1 241 6 7787 1 248 6 375 1 255 1"),
    ("iso8859_15 iso_8859_15 l9 latin9",
      "128 36 8364 1 165 1 352 1 167 1 353 1 169 11 381 1 181 3 382 1 185 3 338 2 376 1 191 65"),
    ("iso8859_16 iso_8859_16 iso_8859_16_2001 iso_ir_226 l10 latin10",
      "128 33 260 2 321 1 8364 1 8222 1 352 1 167 1 353 1 169 1 536 1 171 1 377 1 173 1 378 2
      176 2 268 1 322 1 381 1 8221 1 182 2 382 1 269 1 537 1 187 1 338 2 376 1 380 1 192 3 258
      1 196 1 262 1 198 10 272 1 323 1 210 3 336 1 214 1 346 1 368 1 217 4 280 1 538 1 223 4
      259 1 228 1 263 1 230 10 273 1 324 1 242 3 337 1 246 1 347 1 369 1 249 4 281 1 539 1 255
      1"),
    ("csisolatin2 iso8859_2 iso_8859_2 iso_8859_2_1987 iso_ir_101 l2 latin2",
      "128 33 260 1 728 1 321 1 164 1 317 1 346 1 167 2 352 1 350 1 356 1 377 1 173 1 381 1 379
      1 176 1 261 1 731 1 322 1 180 1 318 1 347 1 711 1 184 1 353 1 351 1 357 1 378 1 733 1
      382 1 380 1 340 1 193 2 258 1 196 1 313 1 262 1 199 1 268 1 201 1 280 1 203 1 282 1 205
      2 270 1 272 1 323 1 327 1 211 2 336 1 214 2 344 1 366 1 218 1 368 1 220 2 354 1 223 1
      341 1 225 2 259 1 228 1 314 1 263 1 231 1 269 1 233 1 281 1 235 1 283 1 237 2 271 1 273
      1 324 1 328 1 243 2 337 1 246 2 345 1 367 1 250 1 369 1 252 2 355 1 729 1"),
    ("csisolatin3 iso8859_3 iso_8859_3 iso_8859_3_1988 iso_ir_109 l3 latin3",
      "128 33 294 1 728 1 163 2 0 1 292 1 167 2 304 1 350 1 286 1 308 1 173 1 0 1 379 1 176 1
      295 1 178 4 293 1 183 2 305 1 351 1 287 1 309 1 189 1 0 1 380 1 192 3 0 1 196 1 266 1
      264 1 199 9 0 1 209 4 288 1 214 2 284 1 217 4 364 1 348 1 223 4 0 1 228 1 267 1 265 1
      231 9 0 1 241 4 289 1 246 2 285 1 249 4 365 1 349 1 729 1"),
    ("csisolatin4 iso8859_4 iso_8859_4 iso_8859_4_1988 iso_ir_110 l4 latin4",
      "128 33 260 1 312 1 342 1 164 1 296 1 315 1 167 2 352 1 274 1 290 1 358 1 173 1 381 1 175
      2 261 1 731 1 343 1 180 1 297 1 316 1 711 1 184 1 353 1 275 1 291 1 359 1 330 1 382 1
      331 1 256 1 193 6 302 1 268 1 201 1 280 1 203 1 278 1 205 2 298 1 272 1 325 1 332 1 310
      1 212 5 370 1 218 3 360 1 362 1 223 1 257 1 225 6 303 1 269 1 233 1 281 1 235 1 279 1
      237 2 299 1 273 1 326 1 333 1 311 1 244 5 371 1 250 3 361 1 363 1 729 1"),
    ("csisolatincyrillic cyrillic iso8859_5 iso_8859_5 iso_8859_5_1988 iso_ir_144",
      "128 33 1025 12 173 1 1038 66 8470 1 1105 12 167 1 1118 2"),
    ("arabic asmo_708 csisolatinarabic ecma_114 iso8859_6 iso_8859_6 iso_8859_6_1987
      iso_ir_127",
      "128 33 0 3 164 1 0 7 1548 1 173 1 0 13 1563 1 0 3 1567 1 0 1 1569 26 0 5 1600 19 0 13"),
    ("csisolatingreek ecma_118 elot_928 greek greek8 iso8859_7 iso_8859_7 iso_8859_7_1987
      iso_ir_126",
      "128 33 8216 2 163 1 8364 1 8367 1 166 4 890 1 171 3 0 1 8213 1 176 4 900 3 183 1 904 3
      187 1 908 1 189 1 910 20 0 1 931 44 0 1"),
    ("csisolatinhebrew hebrew iso8859_8 iso_8859_8 iso_8859_8_1988 iso_ir_138",
      "128 33 0 1 162 8 215 1 171 15 247 1 187 4 0 32 8215 1 1488 27 0 2 8206 2 0 1"),
    ("csisolatin5 iso8859_9 iso_8859_9 iso_8859_9_1989 iso_ir_148 l5 latin5",
      "128 80 286 1 209 12 304 1 350 1 223 17 287 1 241 12 305 1 351 1 255 1"),
    ("cskoi8r koi8_r",
      "9472 1 9474 1 9484 1 9488 1 9492 1 9496 1 9500 1 9508 1 9516 1 9524 1 9532 1 9600 1 9604
      1 9608 1 9612 1 9616 4 8992 1 9632 1 8729 2 8776 1 8804 2 160 1 8993 1 176 1 178 1 183 1
      247 1 9552 3 1105 1 9555 15 1025 1 9570 11 169 1 1102 1 1072 2 1094 1 1076 2 1092 1 1075
      1 1093 1 1080 8 1103 1 1088 4 1078 1 1074 1 1100 1 1099 1 1079 1 1096 1 1101 1 1097 1
      1095 1 1098 1 1070 1 1040 2 1062 1 1044 2 1060 1 1043 1 1061 1 1048 8 1071 1 1056 4 1046
      1 1042 1 1068 1 1067 1 1047 1 1064 1 1069 1 1065 1 1063 1 1066 1"),
    ("koi8_t",
      "1179 1 1171 1 8218 1 1170 1 8222 1 8230 1 8224 2 0 1 8240 1 1203 1 8249 1 1202 1 1207 1
      1206 1 0 1 1178 1 8216 2 8220 2 8226 1 8211 2 0 1 8482 1 0 1 8250 1 0 5 1263 1 1262 1
      1105 1 164 1 1251 1 166 2 0 3 171 4 0 1 176 3 1025 1 0 1 1250 1 182 2 0 1 8470 1 0 1 187
      1 0 3 169 1 1102 1 1072 2 1094 1 1076 2 1092 1 1075 1 1093 1 1080 8 1103 1 1088 4 1078 1
      1074 1 1100 1 1099 1 1079 1 1096 1 1101 1 1097 1 1095 1 1098 1 1070 1 1040 2 1062 1 1044
      2 1060 1 1043 1 1061 1 1048 8 1071 1 1056 4 1046 1 1042 1 1068 1 1067 1 1047 1 1064 1
      1069 1 1065 1 1063 1 1066 1"),
    ("koi8_u",
      "9472 1 9474 1 9484 1 9488 1 9492 1 9496 1 9500 1 9508 1 9516 1 9524 1 9532 1 9600 1 9604
      1 9608 1 9612 1 9616 4 8992 1 9632 1 8729 2 8776 1 8804 2 160 1 8993 1 176 1 178 1 183 1
      247 1 9552 3 1105 1 1108 1 9556 1 1110 2 9559 5 1169 1 9565 5 1025 1 1028 1 9571 1 1030
      2 9574 5 1168 1 9580 1 169 1 1102 1 1072 2 1094 1 1076 2 1092 1 1075 1 1093 1 1080 8
      1103 1 1088 4 1078 1 1074 1 1100 1 1099 1 1079 1 1096 1 1101 1 1097 1 1095 1 1098 1 1070
      1 1040 2 1062 1 1044 2 1060 1 1043 1 1061 1 1048 8 1071 1 1056 4 1046 1 1042 1 1068 1
      1067 1 1047 1 1064 1 1069 1 1065 1 1063 1 1066 1"),
    ("kz1048 kz_1048 rk1048 strk1048_2002",
      "1026 2 8218 1 1107 1 8222 1 8230 1 8224 2 8364 1 8240 1 1033 1 8249 1 1034 1 1178 1 1210
      1 1039 1 1106 1 8216 2 8220 2 8226 1 8211 2 0 1 8482 1 1113 1 8250 1 1114 1 1179 1 1211
      1 1119 1 160 1 1200 2 1240 1 164 1 1256 1 166 2 1025 1 169 1 1170 1 171 4 1198 1 176 2
      1030 1 1110 1 1257 1 181 3 1105 1 8470 1 1171 1 187 1 1241 1 1186 2 1199 1 1040 64"),
    ("mac_croatian",
      "196 2 199 1 201 1 209 1 214 1 220 1 225 1 224 1 226 1 228 1 227 1 229 1 231 1 233 1 232
      1 234 2 237 1 236 1 238 2 241 1 243 1 242 1 244 1 246 1 245 1 250 1 249 1 251 2 8224 1
      176 1 162 2 167 1 8226 1 182 1 223 1 174 1 352 1 8482 1 180 1 168 1 8800 1 381 1 216 1
      8734 1 177 1 8804 2 8710 1 181 1 8706 1 8721 1 8719 1 353 1 8747 1 170 1 186 1 937 1 382
      1 248 1 191 1 161 1 172 1 8730 1 402 1 8776 1 262 1 171 1 268 1 8230 1 160 1 192 1 195 1
      213 1 338 2 272 1 8212 1 8220 2 8216 2 247 1 9674 1 63743 1 169 1 8260 1 8364 1 8249 2
      198 1 187 1 8211 1 183 1 8218 1 8222 1 8240 1 194 1 263 1 193 1 269 1 200 1 205 3 204 1
      211 2 273 1 210 1 218 2 217 1 305 1 710 1 732 1 175 1 960 1 203 1 730 1 184 1 202 1 230
      1 711 1"),
    ("mac_cyrillic maccyrillic",
      "1040 32 8224 1 176 1 1168 1 163 1 167 1 8226 1 182 1 1030 1 174 1 169 1 8482 1 1026 1
      1106 1 8800 1 1027 1 1107 1 8734 1 177 1 8804 2 1110 1 181 1 1169 1 1032 1 1028 1 1108 1
      1031 1 1111 1 1033 1 1113 1 1034 1 1114 1 1112 1 1029 1 172 1 8730 1 402 1 8776 1 8710 1
      171 1 187 1 8230 1 160 1 1035 1 1115 1 1036 1 1116 1 1109 1 8211 2 8220 2 8216 2 247 1
      8222 1 1038 1 1118 1 1039 1 1119 1 8470 1 1025 1 1105 1 1103 1 1072 31 8364 1"),
    ("mac_greek macgreek",
      "196 1 185 1 178 1 201 1 179 1 214 1 220 1 901 1 224 1 226 1 228 1 900 1 168 1 231 1 233
      1 232 1 234 2 163 1 8482 1 238 2 8226 1 189 1 8240 1 244 1 246 1 166 1 8364 1 249 1 251
      2 8224 1 915 2 920 1 923 1 926 1 928 1 223 1 174 1 169 1 931 1 938 1 167 1 8800 1 176 1
      183 1 913 1 177 1 8804 2 165 1 914 1 917 3 921 2 924 1 934 1 939 1 936 2 940 1 925 1 172
      1 927 1 929 1 8776 1 932 1 171 1 187 1 8230 1 160 1 933 1 935 1 902 1 904 1 339 1 8211 1
      8213 1 8220 2 8216 2 247 1 905 2 908 1 910 1 941 3 972 1 911 1 973 1 945 2 968 1 948 2
      966 1 947 1 951 1 953 1 958 1 954 4 959 2 974 1 961 1 963 2 952 1 969 1 962 1 967 1 965
      1 950 1 970 2 912 1 944 1 173 1"),
    ("mac_iceland maciceland",
      "196 2 199 1 201 1 209 1 214 1 220 1 225 1 224 1 226 1 228 1 227 1 229 1 231 1 233 1 232
      1 234 2 237 1 236 1 238 2 241 1 243 1 242 1 244 1 246 1 245 1 250 1 249 1 251 2 221 1
      176 1 162 2 167 1 8226 1 182 1 223 1 174 1 169 1 8482 1 180 1 168 1 8800 1 198 1 216 1
      8734 1 177 1 8804 2 165 1 181 1 8706 1 8721 1 8719 1 960 1 8747 1 170 1 186 1 937 1 230
      1 248 1 191 1 161 1 172 1 8730 1 402 1 8776 1 8710 1 171 1 187 1 8230 1 160 1 192 1 195
      1 213 1 338 2 8211 2 8220 2 8216 2 247 1 9674 1 255 1 376 1 8260 1 8364 1 208 1 240 1
      222 1 254 1 253 1 183 1 8218 1 8222 1 8240 1 194 1 202 1 193 1 203 1 200 1 205 3 204 1
      211 2 63743 1 210 1 218 2 217 1 305 1 710 1 732 1 175 1 728 3 184 1 733 1 731 1 711 1"),
    ("mac_centeuro mac_latin2 maccentraleurope maclatin2",
      "196 1 256 2 201 1 260 1 214 1 220 1 225 1 261 1 268 1 228 1 269 1 262 2 233 1 377 2 270
      1 237 1 271 1 274 2 278 1 243 1 279 1 244 1 246 1 245 1 250 1 282 2 252 1 8224 1 176 1
      280 1 163 1 167 1 8226 1 182 1 223 1 174 1 169 1 8482 1 281 1 168 1 8800 1 291 1 302 2
      298 1 8804 2 299 1 310 1 8706 1 8721 1 322 1 315 4 313 2 325 2 323 1 172 1 8730 1 324 1
      327 1 8710 1 171 1 187 1 8230 1 160 1 328 1 336 1 213 1 337 1 332 1 8211 2 8220 2 8216 2
      247 1 9674 1 333 1 340 2 344 1 8249 2 345 1 342 2 352 1 8218 1 8222 1 353 1 346 2 193 1
      356 2 205 1 381 2 362 1 211 2 363 1 366 1 218 1 367 5 221 1 253 1 311 1 379 1 321 1 380
      1 290 1 711 1"),
    ("mac_roman macintosh macroman",
      "196 2 199 1 201 1 209 1 214 1 220 1 225 1 224 1 226 1 228 1 227 1 229 1 231 1 233 1 232
      1 234 2 237 1 236 1 238 2 241 1 243 1 242 1 244 1 246 1 245 1 250 1 249 1 251 2 8224 1
      176 1 162 2 167 1 8226 1 182 1 223 1 174 1 169 1 8482 1 180 1 168 1 8800 1 198 1 216 1
      8734 1 177 1 8804 2 165 1 181 1 8706 1 8721 1 8719 1 960 1 8747 1 170 1 186 1 937 1 230
      1 248 1 191 1 161 1 172 1 8730 1 402 1 8776 1 8710 1 171 1 187 1 8230 1 160 1 192 1 195
      1 213 1 338 2 8211 2 8220 2 8216 2 247 1 9674 1 255 1 376 1 8260 1 8364 1 8249 2 64257 2
      8225 1 183 1 8218 1 8222 1 8240 1 194 1 202 1 193 1 203 1 200 1 205 3 204 1 211 2 63743
      1 210 1 218 2 217 1 305 1 710 1 732 1 175 1 728 3 184 1 733 1 731 1 711 1"),
    ("mac_romanian",
      "196 2 199 1 201 1 209 1 214 1 220 1 225 1 224 1 226 1 228 1 227 1 229 1 231 1 233 1 232
      1 234 2 237 1 236 1 238 2 241 1 243 1 242 1 244 1 246 1 245 1 250 1 249 1 251 2 8224 1
      176 1 162 2 167 1 8226 1 182 1 223 1 174 1 169 1 8482 1 180 1 168 1 8800 1 258 1 536 1
      8734 1 177 1 8804 2 165 1 181 1 8706 1 8721 1 8719 1 960 1 8747 1 170 1 186 1 937 1 259
      1 537 1 191 1 161 1 172 1 8730 1 402 1 8776 1 8710 1 171 1 187 1 8230 1 160 1 192 1 195
      1 213 1 338 2 8211 2 8220 2 8216 2 247 1 9674 1 255 1 376 1 8260 1 8364 1 8249 2 538 2
      8225 1 183 1 8218 1 8222 1 8240 1 194 1 202 1 193 1 203 1 200 1 205 3 204 1 211 2 63743
      1 210 1 218 2 217 1 305 1 710 1 732 1 175 1 728 3 184 1 733 1 731 1 711 1"),
    ("mac_turkish macturkish",
      "196 2 199 1 201 1 209 1 214 1 220 1 225 1 224 1 226 1 228 1 227 1 229 1 231 1 233 1 232
      1 234 2 237 1 236 1 238 2 241 1 243 1 242 1 244 1 246 1 245 1 250 1 249 1 251 2 8224 1
      176 1 162 2 167 1 8226 1 182 1 223 1 174 1 169 1 8482 1 180 1 168 1 8800 1 198 1 216 1
      8734 1 177 1 8804 2 165 1 181 1 8706 1 8721 1 8719 1 960 1 8747 1 170 1 186 1 937 1 230
      1 248 1 191 1 161 1 172 1 8730 1 402 1 8776 1 8710 1 171 1 187 1 8230 1 160 1 192 1 195
      1 213 1 338 2 8211 2 8220 2 8216 2 247 1 9674 1 255 1 376 1 286 2 304 2 350 2 8225 1 183
      1 8218 1 8222 1 8240 1 194 1 202 1 193 1 203 1 200 1 205 3 204 1 211 2 63743 1 210 1 218
      2 217 1 63648 1 710 1 732 1 175 1 728 3 184 1 733 1 731 1 711 1"),
    ("palmos",
      "8364 1 129 1 8218 1 402 1 8222 1 8230 1 8224 2 710 1 8240 1 352 1 8249 1 338 1 9830 1
      9827 1 9829 1 9824 1 8216 2 8220 2 8226 1 8211 2 732 1 8482 1 353 1 155 1 339 1 157 2
      376 1 160 96"),
    ("cp154 csptcp154 cyrillic_asian pt154 ptcp154",
      "1174 1 1170 1 1262 1 1171 1 8222 1 8230 1 1206 1 1198 1 1202 1 1199 1 1184 1 1250 1 1186
      1 1178 1 1210 1 1208 1 1175 1 8216 2 8220 2 8226 1 8211 2 1203 1 1207 1 1185 1 1251 1
      1187 1 1179 1 1211 1 1209 1 160 1 1038 1 1118 1 1032 1 1256 1 1176 1 1200 1 167 1 1025 1
      169 1 1240 1 171 2 1263 1 174 1 1180 1 176 1 1201 1 1030 1 1110 1 1177 1 1257 1 182 2
      1105 1 8470 1 1241 1 187 1 1112 1 1194 2 1181 1 1040 64"),
    ("iso_ir_166 tis620 tis_620 tis_620_0 tis_620_2529_0 tis_620_2529_1",
      "128 32 0 1 3585 58 0 4 3647 29 0 4")]

/-- Names of encodings whose characters take one octet or more. -/
def multibyteNames : String :=
  "big5 big5_tw csbig5 x_mac_trad_chinese big5_hkscs big5hkscs hkscs 932 cp932 ms932 ms_kanji
    mskanji 949 cp949 ms949 uhc 950 cp950 ms950 euc_jis2004 euc_jis_2004 eucjis2004 jisx0213
    euc_jisx0213 eucjisx0213 euc_jp eucjp u_jis ujis euc_kr euckr korean ks_c_5601
    ks_c_5601_1987 ks_x_1001 ksc5601 ksx1001 x_mac_korean gb18030 gb18030_2000 chinese
    csiso58gb231280 euc_cn euccn eucgb2312_cn gb2312 gb2312_1980 gb2312_80 iso_ir_58
    x_mac_simp_chinese 936 cp936 gbk ms936 csiso2022kr iso2022_kr iso2022kr iso_2022_kr cp1361
    johab ms1361 csshiftjis s_jis shift_jis shiftjis sjis x_mac_japanese s_jis_2004
    shift_jis_2004 shiftjis2004 sjis_2004 s_jisx0213 shift_jisx0213 shiftjisx0213 sjisx0213
    u16 utf16 utf_16 unicodebigunmarked utf_16_be utf_16be unicodelittleunmarked utf_16_le
    utf_16le u32 utf32 utf_32 utf_32_be utf_32be utf_32_le utf_32le u7 unicode_1_1_utf_7 utf7
    utf_7"

/-- Names of encodings that are not ASCII below 128, or are so above it. -/
def foreignNames : String :=
  "037 cp037 csibm037 ebcdic_cp_ca ebcdic_cp_nl ebcdic_cp_us ebcdic_cp_wt ibm037 ibm039 1026
    cp1026 csibm1026 ibm1026 1140 cp1140 ibm1140 273 cp273 csibm273 ibm273 424 cp424 csibm424
    ebcdic_cp_he ibm424 500 cp500 csibm500 ebcdic_cp_be ebcdic_cp_ch ibm500 864 cp864 csibm864
    ibm864 cp875 mac_arabic mac_farsi"

/-- The characters that runs of code points stand for. -/
def expand : List Nat → List (Option Char)
  | first :: count :: rest =>
    ((List.range count).map fun i => if first = 0 then none else some (Char.ofNat (first + i))) ++
      expand rest
  | _ => []

/-- Lower case, with one underscore between the parts that letters, digits and full stops make. -/
def plainName (name : List Char) : String :=
  let isPart := fun (c : Char) => c.isAlphanum || c == '.'
  let parts := (String.ofList (name.map fun c => if isPart c then c.toLower else ' ')).splitOn " "
  String.intercalate "_" (parts.filter (!·.isEmpty))

def isAmong (name : String) (names : String) : Bool := (Text.CharTables.numerals names).contains name

/-- What an encoding's name stands for. -/
inductive Page where
  | octets (high : List (Option Char))
  | multibyte
  | foreign
  | unknown

/-- A name counts as well with underscores in place of its full stops. -/
def find (name : List Char) : Page :=
  let plain := plainName name
  let spellings := [plain, plain.replace "." "_"]
  let isIn := fun (names : String) => spellings.any (isAmong · names)
  match pages.find? fun (names, _) => isIn names with
  | some (_, runs) => .octets (expand ((Text.CharTables.numerals runs).filterMap String.toNat?))
  | none =>
    if isIn multibyteNames then .multibyte else if isIn foreignNames then .foreign else .unknown

end CodePages
end Xml
end CallPolicy
