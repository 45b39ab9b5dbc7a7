/-
  ScriptWeave.Property.Age
  ────────────────────────
  **SINCE WHEN A CHARACTER EXISTS.**

  A version of the character set adds characters to those of the versions
  before it.
-/
import ScriptWeave.Property.Packed

namespace ScriptWeave.Property

/-- The versions in order, each with its names and the characters it adds. -/
def ageTable : List (String × List String) :=
  [ ("1.1 v11",
      [ "0rF4Tu1u27k119Mb2Q1I1403056101J1h116301010101HDB1X21B1e19q121213R2721t1b1261c110c1918CQ5",
        "4N0E0301P5IDD2d2241E1T29dG21q12H243OG217212L161033201621229041142K7025412L16111111201441",
        "22B3107EC21610121L16111429121220F059H217212L1611232731228141124AH11532133110113132371244",
        "321390FBE217121M1914461213719149I117121M191446121371701149I117121M1F452213908149n4v14Sb1",
        "1102110206316121010211C122410152921YEb1Ac1404v25Z25n2cW3w45v26L252b125271010101U2q11E1D2",
        "51I22181k11MZ163QHAb1HUu1Ql1Dw2Ln7E01u3b4a1RALg4Lr4Al2GJ6r2n43132R1Y11013301626EU3N1DXY2",
        "t1701p2452z26d14z21FW3S3Z1SR3n1FB4k11s34Y32UXm6bjKwYGjn6o66C46O141011111h3X1iBG_12r1e1Ba",
        "13CK491I1342101c4201z22z2352525223616E2" ]),
    ("2.0 v20",
      [ "ni1G1CK0xf2d21W17Q45101K3610Xt30lG0qwY1ZzAwYg21-__11-__11-__11-__11-__11-__11-__11-__11-",
        "__11-__11-__11-__11-__1XWW4" ]),
    ("2.1 v21", ["ib80lwt10"]),
    ("3.0 v30",
      [ "sF3U72Hr34n10A4t28J0q3030101010U0C0Y20C0g1123y21y40e62Y3150F0g141D1T3Qr1m1nk111H3N181026",
        "30451017I2rB0h10N270121E20m1X1141116336PcD61-110132610132c110132U101326101326161M1U10132",
        "61c11I6RZ1q2CrJ9S3m2l4y239ME196t28f1by10O5_22o11r21e20d38j80v301Tg41fE7X10s21kC_7Wi1P1u2",
        "Cr6QBy1230XBNeIrj6goKia13H2F1B1210soL0xc12" ]),
    ("3.1 v31",
      [ "qV1wk-1Vme1U13CQr5b12b1ozo1r7Ac13p5YHq21c2112021231B1013111W21327161R131410361nA4X94n1WW",
        "Assf1ffKzGZlXM0U_2" ]),
    ("3.2 v32",
      [ "WH0k90JCe31S0p41v112121n1F-A1XA0bg21dm1C16BM9JCC1211pc20644074D0-11o16o2Ee5Bo7Dy30Up1y8J",
        "t49u27M1w2B29-6Dw2R4FW8_Fxf12t2181-20m7Fn2En2EYlS1G0C030ghLw1nS03Fr11i10h71" ]),
    ("4.0 v40",
      [ "XH0I2t31_1Gm2752t44aG398W22r41F0j12T2qD0u50Z2010e40q22D0Z20x10X47X61_u20I9c8S3B4B403f124",
        "h3VWOh3dN1c70pK1k90q81q37E1-Y1Dlu11n10h11k23d53Z31V0Wk6_1z_h10f21tDB1P1I111E2DY1w3524i13",
        "8WIT10c41c1l229sQ5201h1113020Wso1s2gB0-XhOl7" ]),
    ("4.1 v41",
      [ "tHAs84_43s71g50Y12Z20I0w15n7TlG0m20dF0l10fV1d9110g80_10_10d10V0V0V0F0d10N1VPcl1f16P6941W",
        "1R21iQt2nK116n14T3r10m20F0aKAyH0b31IA5Fk86dQ5i7k11k1X1g3Ei1Ar190GM9616161616161616X1N41Y",
        "TFk50dfRLaw1Mf7h1aoKf3sP9cPg2rGZ14Dgn131157121Q424888dzn1b2-Y11" ]),
    ("5.0 v50",
      [ "YIDh92nA0g15G3c50bGw1WC111YR1D1jm3h24i1dI6p11iN3z21r10tIBgM0q83fQ653y9C73_qU351-8t1eaOP5",
        "0Wt5kRn4Y3D3ith1HuY11" ]),
    ("5.1 v51",
      [ "mR321t20t50i4FY74B4W14k9HnF1-60Z10k60T1i30i30Q181K7z5060T1C536hF1X3032j2050207245Q_141gW",
        "20rMg13Bc2t13E3o1hARr53w25aB0h40-20r13qe10L933e80V3hP44e134u821245YBVO32IyN0Y5JukR7yf1h9",
        "KV2H8RZ442g3k34W4a29Bc1p2B0W5s19D2923a-K2fRBq1j1Y4S3m1lo1P50f_n10ss7h14Z3" ]),
    ("5.2 v52",
      [ "af11wMj12EX60j2060Z11W40vk13X63y54a24o25WG0sJ8mHb2q51k10b2-11S2A696DYHY1g80uL2t42s10-I0r",
        "L1T2491I104Nt20zV4s80D1h36_90oW1BqhR7ae1l1WDt2u99c5Ra3S3j21A41W4R4Y2O4W7j129szAM4m1lp82o",
        "k3L18w51aAVW4r13S2Q57W4e2tGUXGX2-v7kX1ncl1A5U20B0102030348070P01120A320l30FX1E8tbj1qX4" ]),
    ("6.0 v60",
      [ "cf11u70-10WFR20x61J061R4wF5nD0G0J0zH3f21YS1XZ2p183yF0uK7S0lPAwM0J013T041S0Z10104291q12O0",
        "E0E1Wj10E0uX12bbT1h9111E9m20cO525259616ZaKF-X5j24TmyLuHdkH1-aGE2D2E1Em201A10111212571619",
        "681021194119h2P11l18L1k5W1F51b23JCa114LGF-1101r5133z1INp441F1210101012152310231B4Am1b2w1",
        "p3i-l1z6" ]),
    ("6.1 v61",
      [ "li10q30xK01At1QnF0jV1dF050l12hr22C5W87h13qs2010af11p1050u11g69miS0dr17Z10o71M0j21cNMtvJ1",
        "mw3t161mu1O796q11Dy1e279cb1t189sXMa2Bk1GGWpV31Q11102019131010604010101211102010101010111",
        "02316131310191G52141Gq11uJ1qU3y50G0301010103061401140" ]),
    ("6.2 v62", ["wb80"]),
    ("6.3 v63", ["ym10fo63"]),
    ("7.0 v70",
      [ "_R0eD7z21s30xK0B5i20u3070_J0p10i20_30a79Xe27aH1nCEvH1j7EbM2sP6bO0iY12AP2V2X13B17gJ6rYU5s",
        "7BB221b20eFUz33m5l141XsK6zQ1J0_9RZ10m1g1bCd18p1B0m4s99LA7u7-188mEVW1c14Bf4H73C6lc10m6c1s",
        "20C06JBH1g1o3w1597217212L16111428212290562634h8d289c5r12Hs1a2B9cIo2C0WEu1sZ2f1g6B50hkHU1",
        "941W3T25Ab2A9161K5ImZKg35C387927ywAa62Fe_10W1LL1qGB90c20MBb10535BH6d2010s5041_1146TH1e11",
        "r2c21Dl1c29GC33i4q2h1B4t1896d18T" ]),
    ("8.0 v80",
      [ "pb21k10rG0WB0a80rq1025Wc30h61Wp23z-S8es10m70Y15aA1YJ3Cl2kpK1mr2I1154y512F2j1WKo1Do175fc1",
        "3E4W5610131E1As20l20vJJY9P3E4FvY30c7Z6yr7cItyY1Atm1hKF41EzZ62k21l24a17_70h24p71h40_H8d34",
        "x10_ol1Xq5" ]),
    ("9.0 v90",
      [ "sb27MEzS0k604216N2du38oB0_l13ao21fhU0s80dcM1XPZ14Z1Yg30XEv21010YGCpi181i11DAS3V2L1DfvK0V",
        "i_5JoNjeL61G261114rc2g25941xX2Hk40-P0f10i91X12YH517802B1B4Ec1C" ]),
    ("10.0 v100",
      [ "WZ2AnC1y75WG0w11wz30-73bM0_P0o-10oJ4aN0drRKYwO2ms5d28p12M14zI6111h130111889dqK0WXGy8n2hC",
        "axF5jZ11Y11dGBJ08711P0ICc15u1Mfcr1mf7" ]),
    ("11.0 v110",
      [ "Wh10d10c30jG2p60g90t30jC0_30p_20tW1g122wt32MO4EhI4WN0xrR4_z1081aA1qfO1I0tLd189cEd18f1pB0",
        "s32qF0Y90xL0b7x1XJ0YM5111a1111579s9OdwJw2og64ktIJ-36ud6Z2wZ10fk10x63qB2S4233013OAD971a1O",
        "W3D" ]),
    ("12.0 v120",
      [ "tZ30kG020201540707120D0_n30ks30r10lI0ghU524_S1uZPMeZ10uI0dN72j12A_41wf1n1D0mX58iuE540l18",
        "w21kW65ugA2H3uyBi13D2941mBv150ho10rTy1kX10eh10a10b7BX92l10n1090f1531A53722m1p2S34252D5" ]),
    ("12.1 v121", ["_tC0"]),
    ("13.0 v130",
      [ "-b29jK0kD0y30zf31sc40uL2eR4s_69mnKCg-13g11r10xP3mnL0Zd3f11221-7RxB0c41gK051-a162027111T1",
        "12B99so10pXK0B1Xu6YFg18aWP2z22z10ef11Z11pD1w20b3041g1162T0e50E3FI7692D6f1o41s1b19zsg16Yf",
        "Mgw4" ]),
    ("14.0 v140",
      [ "zm10oIU1167L0IAfR0W10_30ln207090l70nLDz30m11xJ0bM0kx20l10pFA_iS2W-11E11014O2j-K0zBF_30k1",
        "1mx1A1E16111A1E1611ZE51f118rz1Pc75i20sl10c46fRFmc5Y3zpEk219cfH31611W93zk7j12M9p3bH1re3Un",
        "RUnf1613111E-s32m80eC0o20k51i13A382H26786d_g11rY43" ]),
    ("15.0 v150",
      [ "pd30wE0kXW22_P2-b29sVG1e13Rrc509SycV0Y10gh8JnY35b8z1X10WY1f1Yl40t4244v20xK2F1a12B210E1A1",
        "C0E1WYl10sWN_Y4" ]),
    ("15.1 v151", ["y_B3lF0Wmk5jJ"]),
    ("16.0 v160",
      [ "ta20sr41l10f81yy12wj31blT2C2ZlNp1iw1b13S81o92t10Za1910201b119102013191181jNJyc1X1E9WR0be",
        "5wy3be7v1cW3v1by70WuFv76pDyu5g140or4941dE050k1070L02090X7a1" ]) ]

/-- The characters that exist up to a version. -/
def upTo (name : Text) : List (String × List String) → Option Ranges
  | [] => none
  | e :: rest =>
    if (words e.1).contains name then some (unpack e.2)
    else (upTo name rest).map (Ranges.union (unpack e.2))

/-- The characters of a version. -/
def age? (name : Text) : Option Ranges := upTo name ageTable

end ScriptWeave.Property
